import Workflow.Job.Backend
import Workflow.Paths
import Workflow.Progress
import Workflow.Run.Clock

/-!
# The state of a run and its calls

A run keeps the progress of its operators, the jobs that it launched and a history of its calls to
the backend.  `Run.perform` makes one call: it is not begun once the run is interrupted, and it is
abandoned when an interruption comes no later than its answer.  A call that cancels the run itself
and answers in the same moment still counts.
-/

namespace Workflow

/-- What a run is told. -/
structure RunSettings (ω : Type) where
  /-- What runs the jobs. -/
  backend : Backend ω
  /-- Where blobs are kept. -/
  storage : StorageConfig
  /-- Where credentials are kept. -/
  secrets : SecretStoreConfig
  /-- The time between two rounds of polls. -/
  pollInterval : Duration
  /-- The time after which the run is given up. -/
  timeout : Option Duration
  /-- The nanosecond up to which the run is watched. -/
  horizon : Nat

/-- The limits of a run that is canceled at some moment, if at all. -/
def RunSettings.limits {ω : Type} (settings : RunSettings ω) (canceledAt : Option Nat) : Limits :=
  ⟨canceledAt, settings.timeout.map Duration.nanos⟩

/-- A call to the backend. -/
inductive CallSubject
  /-- Launch a job. -/
  | launch (spec : JobSpec)
  /-- Ask for the status of the job of an operator. -/
  | poll (operator : Uuid) (job : String)
  deriving DecidableEq

/-- What came of a call. -/
inductive CallResult
  /-- The job was accepted. -/
  | accepted
  /-- The job has a status. -/
  | status (status : Status)
  /-- The backend refused. -/
  | refused (error : JobError)
  /-- The run did not wait for an answer. -/
  | interrupted
  deriving DecidableEq

/-- One call of the history. -/
structure CallRecord where
  /-- When it was begun. -/
  time : Nat
  /-- The operator that it was made for. -/
  operator : Uuid
  /-- What it was about. -/
  subject : CallSubject
  /-- What came of it. -/
  result : CallResult
  deriving DecidableEq

/-- A run under way. -/
structure Run (ω : Type) where
  /-- The current nanosecond. -/
  now : Nat
  /-- When the run is canceled, as far as that is known. -/
  canceledAt : Option Nat
  /-- The states of the operators. -/
  progress : Progress
  /-- The job of each operator that was launched. -/
  jobs : Table Uuid String
  /-- The operators whose jobs were accepted, first one first. -/
  dispatchOrder : List Uuid
  /-- Why jobs were not accepted. -/
  launchErrors : Table Uuid String
  /-- The world of the backend. -/
  world : ω
  /-- The calls so far, last one first. -/
  history : List CallRecord

/-- Why a run stops before it is finished. -/
inductive StopReason
  /-- The run cannot or may not go on. -/
  | fault (fault : Fault)
  /-- The run goes on, but is watched no longer. -/
  | unfinished

/-- A run that stopped. -/
structure Stopped (ω : Type) where
  /-- Why it stopped. -/
  reason : StopReason
  /-- Where it stood. -/
  run : Run ω

namespace Run

variable {ω α : Type}

/-- When a run is interrupted. -/
def limits (settings : RunSettings ω) (run : Run ω) : Limits :=
  settings.limits run.canceledAt

/-- The fault of an interrupted run. -/
def interruptFault (settings : RunSettings ω) (run : Run ω) : Interrupt → Fault
  | .canceled => .canceled run.progress.dispatched.length
  | .deadline =>
      .deadlineExceeded (settings.timeout.getD ⟨0⟩) run.progress.dispatched.length

/-- Stop a run at a moment because it is interrupted. -/
def stopAt (settings : RunSettings ω) (run : Run ω) (interrupt : Interrupt) (time : Nat) :
    Stopped ω :=
  ⟨.fault (run.interruptFault settings interrupt), { run with now := time }⟩

/-- Stop watching a run. -/
def leave (settings : RunSettings ω) (run : Run ω) : Stopped ω :=
  ⟨.unfinished, { run with now := settings.horizon }⟩

/-- What stops a run that waits until a moment, if anything does. -/
def stopBy? (settings : RunSettings ω) (run : Run ω) (time : Nat) : Option (Stopped ω) :=
  ((run.limits settings).interrupt? run.now time).map fun (interrupt, moment) =>
    run.stopAt settings interrupt moment

/-- Wait for a moment. -/
def wait (settings : RunSettings ω) (run : Run ω) (time : Nat) : Except (Stopped ω) (Run ω) :=
  match run.stopBy? settings (max run.now (min settings.horizon time)) with
  | some stopped => .error stopped
  | none =>
      if time ≤ settings.horizon then .ok { run with now := max run.now time }
      else .error (run.leave settings)

/-- Wait for what never comes. -/
def waitInVain (settings : RunSettings ω) (run : Run ω) : Stopped ω :=
  (run.stopBy? settings (max run.now settings.horizon)).getD (run.leave settings)

/-- Add a call to the history. -/
def note (run : Run ω) (time : Nat) (operator : Uuid) (subject : CallSubject)
    (result : CallResult) : Run ω :=
  { run with history := ⟨time, operator, subject, result⟩ :: run.history }

/-- Add a call to the history of a run that stopped during the call. -/
def abandon (time : Nat) (operator : Uuid) (subject : CallSubject) (stopped : Stopped ω) :
    Stopped ω :=
  { stopped with run := stopped.run.note time operator subject .interrupted }

/-- Make a call to the backend for an operator. -/
def perform (settings : RunSettings ω) (run : Run ω) (operator : Uuid) (subject : CallSubject)
    (call : ω → BackendCall ω α) (result : α → CallResult) :
    Except (Stopped ω) (α × Run ω) := do
  let run ← run.wait settings run.now
  let call := call run.world
  let start := run.now
  let run := { run with world := call.begun }
  let run ← (run.wait settings (start + call.delay)).mapError (abandon start operator subject)
  let run := if call.cancels then { run with canceledAt := some run.now } else run
  match call.answer with
  | some (answer, world) =>
      let run := { run with world }
      .ok (answer, run.note start operator subject (result answer))
  | none => .error (abandon start operator subject (run.waitInVain settings))

end Run
end Workflow
