import Workflow.CommandLine.LogFilter
import Workflow.Dag.Plan
import Workflow.Json.Reader
import Workflow.Text.Quoted

/-!
# The command line

There is one command, which validates the workflow in a JSON file and prints the order in which its
operators run.  Arguments are taken from left to right; the first that is wrong ends the reading.
-/

namespace Workflow
namespace CommandLine

/-- How much is logged. -/
inductive LogLevel
  /-- Errors only. -/
  | error
  /-- Warnings too. -/
  | warn
  /-- What happens. -/
  | info
  /-- What happens inside. -/
  | debug
  /-- Everything. -/
  | trace
  deriving DecidableEq

/-- Every level with its name. -/
def LogLevel.names : List (String × LogLevel) :=
  [("error", .error), ("warn", .warn), ("info", .info), ("debug", .debug), ("trace", .trace)]

/-- What to validate and how. -/
structure Validation where
  /-- The file. -/
  path : String
  /-- Whether operators that send data to a service are left out. -/
  preview : Bool
  /-- Whether the plan is printed as JSON. -/
  json : Bool
  /-- How much is logged, if that is said. -/
  logLevel : Option LogLevel
  deriving DecidableEq

/-- What is asked for. -/
inductive Command
  /-- Validate a file. -/
  | validate (validation : Validation)
  /-- Print the version. -/
  | version
  /-- Print how the program is used. -/
  | help
  deriving DecidableEq

/-- The arguments make no sense. -/
structure UsageError where
  /-- What is wrong with them. -/
  message : String
  deriving DecidableEq

/-- What has been read of the arguments of the command. -/
structure Draft where
  /-- The file. -/
  path : Option String
  /-- Whether operators that send data to a service are left out. -/
  preview : Bool
  /-- Whether the plan is printed as JSON. -/
  json : Bool
  /-- The log level given before the command. -/
  outerLevel : Option LogLevel
  /-- The log level given after the command. -/
  innerLevel : Option LogLevel

/-- Read a log level, which may be given once. -/
def readLevel (given : Option LogLevel) (text : String) : Except UsageError LogLevel :=
  match given, LogLevel.names.lookup text with
  | _, none => .error ⟨"invalid log level '" ++ text ++ "'"⟩
  | some _, _ => .error ⟨"the log level is given twice"⟩
  | none, some level => .ok level

/-- The text after a beginning, if another text begins so. -/
def after? (beginning text : String) : Option String :=
  if beginning.toList.isPrefixOf text.toList then
    some (String.ofList (text.toList.drop beginning.length))
  else none

/-- Whether an argument is an option and not a value. -/
def isOption (argument : String) : Bool :=
  argument != "-" && (after? "-" argument).isSome

/-- Take a value as the file. -/
def Draft.takePath (draft : Draft) (value : String) : Except UsageError Draft :=
  if draft.path.isSome then .error ⟨"unexpected argument '" ++ value ++ "'"⟩
  else if value = "" then .error ⟨"the path is empty"⟩
  else .ok { draft with path := some value }

/-- Take values of which none is an option. -/
def Draft.takePaths (draft : Draft) (values : List String) : Except UsageError Draft :=
  values.foldlM Draft.takePath draft

/-- The command of a complete draft; the file may come from the environment. -/
def Draft.finish (draft : Draft) (fallback : Option String) : Except UsageError Command := do
  let some path := draft.path.or fallback
    | .error ⟨"a path is required"⟩
  if path = "" then .error ⟨"the path is empty"⟩
  else return .validate ⟨path, draft.preview, draft.json, draft.innerLevel.or draft.outerLevel⟩

/-- Read the arguments of the command. -/
def readArguments (fallback : Option String) (draft : Draft) :
    List String → Except UsageError Command
  | [] => draft.finish fallback
  | "--" :: values => do (← draft.takePaths values).finish fallback
  | "--log-level" :: value :: rest =>
      match readLevel draft.innerLevel value with
      | .ok level => readArguments fallback { draft with innerLevel := some level } rest
      | .error wrong => .error wrong
  | argument :: rest =>
      match after? "--log-level=" argument with
      | some value =>
          match readLevel draft.innerLevel value with
          | .ok level => readArguments fallback { draft with innerLevel := some level } rest
          | .error wrong => .error wrong
      | none =>
          if argument = "--preview" ∧ !draft.preview then
            readArguments fallback { draft with preview := true } rest
          else if argument = "--json" ∧ !draft.json then
            readArguments fallback { draft with json := true } rest
          else if argument = "--help" ∨ (after? "-h" argument).isSome then .ok .help
          else if isOption argument then .error ⟨"unexpected argument '" ++ argument ++ "'"⟩
          else
            match draft.takePath argument with
            | .ok draft => readArguments fallback draft rest
            | .error wrong => .error wrong

/-- Read what is asked about the program itself. -/
def readHelp : List String → Except UsageError Command
  | [] | ["validate"] | ["help"] => .ok .help
  | _ => .error ⟨"unrecognized command"⟩

/-- Read all arguments. -/
def read (fallback : Option String) (level : Option LogLevel) :
    List String → Except UsageError Command
  | [] => .error ⟨"a command is required"⟩
  | "validate" :: rest => readArguments fallback ⟨none, false, false, level, none⟩ rest
  | "help" :: rest => readHelp rest
  | "--log-level" :: value :: rest =>
      match readLevel level value with
      | .ok level => read fallback (some level) rest
      | .error wrong => .error wrong
  | argument :: rest =>
      match after? "--log-level=" argument with
      | some value =>
          match readLevel level value with
          | .ok level => read fallback (some level) rest
          | .error wrong => .error wrong
      | none =>
          if argument = "--version" ∨ (after? "-V" argument).isSome then .ok .version
          else if argument = "--help" ∨ (after? "-h" argument).isSome then .ok .help
          else .error ⟨"unexpected argument '" ++ argument ++ "'"⟩

/-- What the program leaves behind. -/
structure Exit where
  /-- The exit code. -/
  code : UInt8
  /-- What it prints. -/
  output : String
  /-- What it says about a failure. -/
  message : Option String
  deriving DecidableEq

/-- The name of the program. -/
def programName : String :=
  "flowctl"

/-- The variable that may name the file. -/
def pathVariable : String :=
  "FLOWCTL_DAG"

/-- The variable that may hold a log filter. -/
def filterVariable : String :=
  "FLOWCTL_LOG"

/-- The name and the version of the program. -/
def versionText : String :=
  programName ++ " 0.1.0\n"

/-- How the program is used. -/
def helpText : String :=
  "Workflow DAG tooling\n\n" ++
    "Usage: flowctl [OPTIONS] validate [--preview] [--json] <PATH>\n\n" ++
    "Options:\n" ++
    "      --log-level <LOG_LEVEL>  Overrides FLOWCTL_LOG [possible values: error, warn, info, " ++
    "debug, trace]\n" ++
    "  -h, --help                   Print help\n" ++
    "  -V, --version                Print version\n"

/-- The exit after a failure of the program itself. -/
def failure (message : String) : Exit :=
  ⟨1, "", some (programName ++ " error: " ++ message)⟩

/-- The exit after wrong arguments. -/
def usageFailure : Exit :=
  ⟨2, "", none⟩

/-- A plan for people. -/
def planText (dag : Dag) (plan : List PlannedOperator) : String :=
  "Workflow '" ++ dag.metadata.name ++ "' is valid. Execution order:\n" ++
    String.join (plan.map fun planned => planned.line ++ "\n")

/-- A plan as JSON. -/
def planJson (plan : List PlannedOperator) : String :=
  (Json.ofList PlannedOperator.toJson plan).printIndented 0 ++ "\n"

namespace Validation

/-- Whether the log filter of the environment can be used, if it matters. -/
def acceptsFilter (validation : Validation) (filter : Option String) : Bool :=
  validation.logLevel.isSome ||
    filter.all fun text => LogFilter.isBlank text || LogFilter.isValid text

/-- Validate the text of the file. -/
def check (validation : Validation) (text : String) : Exit :=
  match Json.ofString? text >>= Dag.ofJson? with
  | none => failure (validation.path ++ " is not a workflow DAG")
  | some dag =>
      match dag.plan validation.preview with
      | .error defect => ⟨2, "", some ("Validation failed: " ++ defect.message)⟩
      | .ok plan => ⟨0, if validation.json then planJson plan else planText dag plan, none⟩

/-- Validate the content of the file, which is missing if it cannot be read. -/
def run (validation : Validation) (filter : Option String) (content : Option Bytes) : Exit :=
  if validation.acceptsFilter filter then
    match content >>= Utf8.decode? with
    | some text => validation.check text
    | none => failure ("cannot read file " ++ validation.path)
  else
    failure ("invalid " ++ filterVariable ++ " value " ++ Text.quote (filter.getD ""))

end Validation

/-- What the program does with its arguments, its environment and the files it can read. -/
def run (arguments : List String) (environment : String → Option String)
    (contentOf : String → Option Bytes) : Exit :=
  match read (environment pathVariable) none arguments with
  | .error _ => usageFailure
  | .ok .version => ⟨0, versionText, none⟩
  | .ok .help => ⟨0, helpText, none⟩
  | .ok (.validate validation) =>
      validation.run (environment filterVariable) (contentOf validation.path)

end CommandLine
end Workflow
