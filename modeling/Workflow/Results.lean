import Workflow.Binary64.Numeral
import Workflow.Run.Execution
import Workflow.Text.Blank

/-!
# The results of a run

After a run the metadata of each operator and the content of each artifact are read back.  Every
operator has a result, and one without success always has a message.  Only outputs of operators with
success are read, and content that is not of its artifact's kind is a fault.
-/

namespace Workflow

/-- What a job writes about itself. -/
structure OperatorMetadata where
  /-- Its error, empty without one. -/
  error : String
  /-- Its logs by name. -/
  logs : Table String String
  deriving DecidableEq

namespace OperatorMetadata

/-- Operator metadata in JSON. -/
def toJson (metadata : OperatorMetadata) : Json :=
  .obj [("error", .str metadata.error), ("logs", Json.ofTable Json.str metadata.logs)]

/-- Read operator metadata from JSON. -/
def ofJson? (value : Json) : Option OperatorMetadata := do
  let record ← Json.record? ["error", "logs"] value
  let error ← record.fieldOr? "error" "" Json.string?
  let logs ← record.fieldOr? "logs" .empty (Json.table? some Json.string?)
  some ⟨error, logs⟩

end OperatorMetadata

/-- What a job writes about a table. -/
structure TableMetadata where
  /-- For each column its name and its type. -/
  schema : List (Table String String)
  deriving DecidableEq

namespace TableMetadata

/-- Nothing is known about the table. -/
def unknown : TableMetadata :=
  ⟨[]⟩

/-- Table metadata in JSON. -/
def toJson (metadata : TableMetadata) : Json :=
  .obj [("schema", Json.ofList (Json.ofTable Json.str) metadata.schema)]

/-- Read table metadata from JSON. -/
def ofJson? (value : Json) : Option TableMetadata := do
  let record ← Json.record? ["schema"] value
  let schema ← record.fieldOr? "schema" [] (Json.list? (Json.table? some Json.string?))
  some ⟨schema⟩

end TableMetadata

/-- What became of an operator. -/
structure OperatorResult where
  /-- Success or failure. -/
  status : Status
  /-- Its logs by name. -/
  logs : Table String String
  /-- Why it failed. -/
  message : String
  deriving DecidableEq

namespace OperatorResult

/-- A failure without logs. -/
def failed (message : String) : OperatorResult :=
  ⟨.failed, .empty, message⟩

/-- An operator result in JSON. -/
def toJson (result : OperatorResult) : Json :=
  .obj
    [("status", result.status.toJson), ("logs", Json.ofTable Json.str result.logs),
      ("err_msg", .str result.message)]

/-- Read an operator result from JSON. -/
def ofJson? (value : Json) : Option OperatorResult := do
  let record ← Json.record? ["status", "logs", "err_msg"] value
  let status ← record.field? "status" Status.ofJson?
  let logs ← record.field? "logs" (Json.table? some Json.string?)
  let message ← record.field? "err_msg" Json.string?
  some ⟨status, logs, message⟩

/-- What is said about an operator that left no metadata. -/
def missingMetadata : String :=
  "Unable to retrieve metadata for this operator. " ++
    "The workflow might have failed before executing this operator."

/-- What is said about an operator that was skipped. -/
def skippedMessage : String :=
  "This operator was not executed because an upstream operator failed."

/-- What is said about an operator that failed without a message of its own. -/
def failedWithoutError : String :=
  "The operator's job failed without reporting an error."

/-- The result of an operator that left metadata. -/
def ofMetadata (state : OperatorState) (metadata : OperatorMetadata) : OperatorResult :=
  if metadata.error ≠ "" then ⟨.failed, metadata.logs, metadata.error⟩
  else if state = .succeeded then ⟨.succeeded, metadata.logs, ""⟩
  else ⟨.failed, metadata.logs, failedWithoutError⟩

/-- The result of an operator without metadata, whose launch may have been refused. -/
def withoutMetadata (launchError : Option String) : OperatorResult :=
  failed (launchError.getD missingMetadata)

end OperatorResult

/-- The content of an artifact. -/
inductive ArtifactResult
  /-- Rows as text, with what is known about the columns. -/
  | table (schema : TableMetadata) (data : String)
  /-- A number. -/
  | metric (value : Binary64)
  /-- Whether a check passed. -/
  | check (passed : Bool)
  /-- Any text. -/
  | param (value : String)
  deriving DecidableEq

namespace ArtifactResult

/-- Read the only field of a result. -/
def fieldOf? {α : Type} (name : String) (read : Json → Option α) (value : Json) : Option α :=
  Json.record? [name] value >>= (·.field? name read)

/-- Read the fields of a table. -/
def tableOf? (value : Json) : Option ArtifactResult := do
  let record ← Json.record? ["table_schema", "data"] value
  let schema ← record.field? "table_schema" TableMetadata.ofJson?
  let data ← record.field? "data" Json.string?
  some (table schema data)

/-- Read a result from JSON: an object whose only key names what the result is. -/
def ofJson? : Json → Option ArtifactResult
  | .obj [("table", value)] => tableOf? value
  | .obj [("metric", value)] => (fieldOf? "val" Json.float? value).map metric
  | .obj [("check", value)] => (fieldOf? "passed" Json.bool? value).map check
  | .obj [("param", value)] => (fieldOf? "val" Json.string? value).map param
  | _ => none

/-- The fault of content that is not as expected. -/
def malformed (id : Uuid) (expected : String) (content : Bytes) : Fault :=
  .malformedArtifact id expected (Utf8.decodeLossy content)

/-- Content as text. -/
def textOf (id : Uuid) (content : Bytes) : Except Fault String :=
  match Utf8.decode? content with
  | some text => .ok text
  | none => .error (malformed id "utf-8 text" content)

/-- Content without the white space at its ends. -/
def trimmed (content : Bytes) : List Char :=
  Text.trim (Utf8.decodeLossy content).toList

/-- Content as a number. -/
def floatOf (id : Uuid) (content : Bytes) : Except Fault Binary64 :=
  match Binary64.ofText? (trimmed content) with
  | some value => .ok value
  | none => .error (malformed id "float" content)

/-- The spellings of the truth values. -/
def boolSpellings : List (String × Bool) :=
  [("1", true), ("t", true), ("T", true), ("true", true), ("TRUE", true), ("True", true),
    ("0", false), ("f", false), ("F", false), ("false", false), ("FALSE", false),
    ("False", false)]

/-- Content as a truth value. -/
def boolOf (id : Uuid) (content : Bytes) : Except Fault Bool :=
  match boolSpellings.lookup (String.ofList (trimmed content)) with
  | some value => .ok value
  | none => .error (malformed id "bool" content)

end ArtifactResult

namespace Results

variable {σ : Type}

/-- Read the result of an operator that was not skipped. -/
def operatorResult (store : Store σ) (paths : RunPaths) (report : RunReport) (id : Uuid)
    (state : OperatorState) : StateM σ OperatorResult := do
  match paths.operatorMetadataOf id with
  | .error _ => return .withoutMetadata (report.launchErrors.find? id)
  | .ok path =>
      match ← store.readJson OperatorMetadata.ofJson? path with
      | .error _ => return .withoutMetadata (report.launchErrors.find? id)
      | .ok metadata => return .ofMetadata state metadata

/-- Read the results of operators one after the other. -/
def operatorEntries (store : Store σ) (paths : RunPaths) (report : RunReport) :
    List (Uuid × OperatorState) → StateM σ (List (Uuid × OperatorResult))
  | [] => return []
  | (id, state) :: rest => do
      let result ←
        if state = .skipped then pure (.failed OperatorResult.skippedMessage)
        else operatorResult store paths report id state
      return (id, result) :: (← operatorEntries store paths report rest)

/-- Read the result of every operator of a run. -/
def collectOperators (store : Store σ) (paths : RunPaths) (report : RunReport) :
    StateM σ (Table Uuid OperatorResult) := do
  return .ofList (← operatorEntries store paths report report.operators.entries)

/-- The outputs of the operators without success, ascending. -/
def skipSet (dag : Dag) (results : Table Uuid OperatorResult) : List Uuid :=
  ascending ((results.entries.filter fun (_, result) => result.status != .succeeded).flatMap
    fun (id, _) => (dag.operators.find? id).elim [] Operator.outputs)

/-- Read what is known about a table; that it cannot be read is no fault. -/
def tableMetadata (store : Store σ) (paths : RunPaths) (id : Uuid) : StateM σ TableMetadata := do
  match paths.artifactMetadataOf id with
  | .error _ => return .unknown
  | .ok path =>
      match ← store.readJson TableMetadata.ofJson? path with
      | .error _ => return .unknown
      | .ok metadata => return metadata

/-- Read the content of an artifact from its bytes; a table has its schema read first. -/
def interpret (store : Store σ) (paths : RunPaths) (id : Uuid) (kind : ArtifactKind)
    (content : Bytes) : StateM σ (Except Fault ArtifactResult) := do
  match kind with
  | .float => return (ArtifactResult.floatOf id content).map .metric
  | .bool => return (ArtifactResult.boolOf id content).map .check
  | .json => return (ArtifactResult.textOf id content).map .param
  | .table =>
      let schema ← tableMetadata store paths id
      return (ArtifactResult.textOf id content).map (.table schema)

/-- Read an artifact. -/
def artifactResult (store : Store σ) (paths : RunPaths) (id : Uuid) (artifact : Artifact) :
    StateM σ (Except Fault ArtifactResult) := do
  match paths.artifactContentOf id with
  | .error fault => return .error fault
  | .ok path =>
      match ← store.get path with
      | .error failure => return .error (.storage failure)
      | .ok content => interpret store paths id artifact.kind content

/-- Read artifacts one after the other up to the first fault. -/
def artifactEntries (store : Store σ) (paths : RunPaths) :
    List (Uuid × Artifact) → StateM σ (Except Fault (List (Uuid × ArtifactResult)))
  | [] => return .ok []
  | (id, artifact) :: rest => do
      match ← artifactResult store paths id artifact with
      | .error fault => return .error fault
      | .ok result => return (← artifactEntries store paths rest).map ((id, result) :: ·)

/-- Read every artifact that is not to be skipped. -/
def collectArtifacts (store : Store σ) (paths : RunPaths) (artifacts : Table Uuid Artifact)
    (skip : List Uuid) : StateM σ (Except Fault (Table Uuid ArtifactResult)) := do
  let wanted := artifacts.filter fun id _ => !skip.contains id
  return (← artifactEntries store paths wanted.entries).map .ofList

end Results
end Workflow
