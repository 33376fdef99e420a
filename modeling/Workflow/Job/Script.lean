import Workflow.Job.Rehearsal

/-!
# A backend that follows scripts

A script says step by step what happens when the job of an operator is launched and when it is
polled: how long a call takes, whether it cancels the run, and whether and what it answers.  A job
that is accepted writes the blobs that its script lists; failures to write are ignored.
-/

namespace Workflow

/-- How a call ends. -/
inductive ScriptEnding
  /-- It never does. -/
  | stuck
  /-- With an error that may tell the name of the job. -/
  | fails (error : String → JobError)
  /-- With the status of this name. -/
  | answers (status : String)

/-- What one call does. -/
structure ScriptStep where
  /-- The nanoseconds before anything else happens. -/
  delay : Nat
  /-- Whether the run is then canceled. -/
  cancels : Bool
  /-- How the call then ends. -/
  ending : ScriptEnding

/-- What happens to the job of an operator. -/
structure JobScript where
  /-- The launch. -/
  launch : ScriptStep
  /-- The polls; the last one is repeated. -/
  polls : List ScriptStep
  /-- The metadata, if any is written. -/
  metadata : Option Bytes
  /-- The contents of the outputs, where any are written. -/
  outputs : List (Option Bytes)
  /-- The schemas of the outputs, where any are written. -/
  outputMetadata : List (Option Bytes)

namespace ScriptStep

/-- A call that answers at once with success. -/
def succeeds : ScriptStep :=
  ⟨0, false, .answers "succeeded"⟩

/-- The call that a step describes, given what follows an answer. -/
def call {ω α : Type} (step : ScriptStep) (job : String) (begun : ω)
    (answered : String → Except JobError α × ω) : BackendCall ω (Except JobError α) where
  begun := begun
  delay := step.delay
  cancels := step.cancels
  answer :=
    match step.ending with
    | .stuck => none
    | .fails error => some (.error (error job), begun)
    | .answers status => some (answered status)

end ScriptStep

namespace JobScript

/-- The script of a job that succeeds at once and writes nothing. -/
def succeeds : JobScript :=
  ⟨.succeeds, [], none, [], []⟩

/-- The step of a poll, counted from zero. -/
def pollStep (script : JobScript) (count : Nat) : ScriptStep :=
  (script.polls[min count (script.polls.length - 1)]?).getD .succeeds

/-- The blobs that a job writes once it is accepted. -/
def blobsOf (script : JobScript) (spec : JobSpec) : List (String × Bytes) :=
  let written (paths : List String) (contents : List (Option Bytes)) : List (String × Bytes) :=
    (paths.zip contents).filterMap fun (path, content) => content.map (path, ·)
  written [spec.metadataPath] [script.metadata] ++ written spec.outputContentPaths script.outputs ++
    written spec.outputMetadataPaths script.outputMetadata

end JobScript

/-- Scripts by operator name. -/
structure Scripts where
  /-- The scripts that are given. -/
  named : Table String JobScript
  /-- The script of every other operator. -/
  others : JobScript

namespace Scripts

/-- The accepted jobs: the operator name and how often each was polled. -/
abbrev Jobs :=
  Table String (String × Nat)

/-- The script of an operator. -/
def scriptOf (scripts : Scripts) (operatorName : String) : JobScript :=
  (scripts.named.find? operatorName).getD scripts.others

variable {σ : Type}

/-- Launch a job by its script. -/
def launch (scripts : Scripts) (store : Store σ) (spec : JobSpec) (world : Jobs × σ) :
    BackendCall (Jobs × σ) (Except JobError Unit) :=
  let script := scripts.scriptOf spec.operatorName
  script.launch.call spec.name world fun _ =>
    (.ok (), (world.1.insert spec.name (spec.operatorName, 0),
      store.putEach (script.blobsOf spec) world.2))

/-- Poll a job by its script. -/
def poll (scripts : Scripts) (name : String) (world : Jobs × σ) :
    BackendCall (Jobs × σ) (Except JobError Status) :=
  match world.1.find? name with
  | none => .now (.error (.jobNotExist name), world)
  | some (operatorName, count) =>
      let begun := (world.1.insert name (operatorName, count + 1), world.2)
      ((scripts.scriptOf operatorName).pollStep count).call name begun fun status =>
        match Status.ofName status with
        | .ok status => (.ok status, begun)
        | .error unknown => (.error (.backend unknown.message), begun)

/-- The backend that follows scripts, on its jobs and the state of a store. -/
def backend (scripts : Scripts) (config : BackendConfig) (store : Store σ) :
    Backend (Jobs × σ) where
  config := config
  launch := scripts.launch store
  poll := scripts.poll

end Scripts
end Workflow
