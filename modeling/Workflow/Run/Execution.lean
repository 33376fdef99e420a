import Workflow.Run.Call

/-!
# Executing a workflow

A run goes round in cycles: launch every operator that is ready, wait for the next tick, and poll
every job that is dispatched.  A refused launch fails the operator, and a refused poll is repeated
in the next cycle.  The run is finished when no operator is ready or dispatched after the launches.
-/

namespace Workflow

/-- What is known after a finished run. -/
structure RunReport where
  /-- The run. -/
  run : Uuid
  /-- Success if every operator succeeded. -/
  status : Status
  /-- The final state of every operator. -/
  operators : Table Uuid OperatorState
  /-- The operators whose jobs were accepted, first one first. -/
  dispatchOrder : List Uuid
  /-- Why jobs were not accepted. -/
  launchErrors : Table Uuid String
  deriving DecidableEq

/-- How a run ends. -/
inductive Conclusion (α : Type)
  /-- With a result. -/
  | result (value : α)
  /-- With a fault. -/
  | fault (fault : Fault)
  /-- It is watched no longer. -/
  | unfinished
  deriving DecidableEq

/-- The end of a run. -/
structure RunEnd (ω α : Type) where
  /-- How it ends. -/
  conclusion : Conclusion α
  /-- The nanosecond in which it ends. -/
  now : Nat
  /-- Every call that it made, first one first. -/
  calls : List CallRecord
  /-- The world that it leaves. -/
  world : ω

/-- The specification of every launch that was attempted, first one first. -/
def RunEnd.specs {ω α : Type} (ended : RunEnd ω α) : List JobSpec :=
  ended.calls.filterMap fun call =>
    match call.subject with
    | .launch spec => some spec
    | .poll _ _ => none

/-- The specification of the job of an operator. -/
def JobSpec.build {ω : Type} (settings : RunSettings ω) (paths : RunPaths) (run : Uuid)
    (operator : Operator) : Except Fault JobSpec := do
  let metadataPath ← paths.operatorMetadataOf operator.id
  let inputContentPaths ← operator.inputs.mapM paths.artifactContentOf
  let inputMetadataPaths ← operator.inputs.mapM paths.artifactMetadataOf
  let outputContentPaths ← operator.outputs.mapM paths.artifactContentOf
  let outputMetadataPaths ← operator.outputs.mapM paths.artifactMetadataOf
  return {
    name := jobName operator run
    operator := operator.id
    operatorName := operator.name
    task := operator.task.toJson.canonical
    storage := settings.storage
    secrets := settings.secrets
    backend := settings.backend.config
    metadataPath, inputContentPaths, inputMetadataPaths, outputContentPaths, outputMetadataPaths }

namespace Run

variable {ω : Type}

/-- A run before its first cycle. -/
def start (order : List Uuid) (dag : Dag) (canceledAt : Option Nat) (world : ω) : Run ω where
  now := 0
  canceledAt := canceledAt
  progress := .start order (.build dag)
  jobs := .empty
  dispatchOrder := []
  launchErrors := .empty
  world := world
  history := []

/-- Stop a run because of a fault. -/
def fail (run : Run ω) (fault : Fault) : Stopped ω :=
  ⟨.fault fault, run⟩

/-- Take note that the job of an operator was accepted. -/
def dispatch (run : Run ω) (operator : Uuid) (job : String) : Run ω :=
  { run with
    progress := run.progress.markDispatched operator
    dispatchOrder := run.dispatchOrder ++ [operator]
    jobs := run.jobs.insert operator job }

/-- Take note that the job of an operator was not accepted. -/
def refuse (run : Run ω) (operator : Uuid) (error : JobError) : Run ω :=
  { run with
    launchErrors := run.launchErrors.insert operator error.message
    progress := (run.progress.record operator .failed).2 }

/-- What the history says about the answer to a launch. -/
def launchResult : Except JobError Unit → CallResult
  | .ok () => .accepted
  | .error error => .refused error

/-- What the history says about the answer to a poll. -/
def pollResult : Except JobError Status → CallResult
  | .ok status => .status status
  | .error error => .refused error

/-- Launch the job of an operator. -/
def launch (settings : RunSettings ω) (dag : Dag) (paths : RunPaths) (id : Uuid) (run : Run ω)
    (operator : Uuid) : Except (Stopped ω) (Run ω) := do
  let some found := dag.operators.find? operator
    | .error (run.fail (.unknownOperator operator))
  let spec ← (JobSpec.build settings paths id found).mapError run.fail
  let (answer, run) ←
    run.perform settings operator (.launch spec) (settings.backend.launch spec) launchResult
  match answer with
  | .ok () => return run.dispatch operator spec.name
  | .error error => return run.refuse operator error

/-- Poll the job of an operator. -/
def poll (settings : RunSettings ω) (run : Run ω) (operator : Uuid) :
    Except (Stopped ω) (Run ω) :=
  match run.jobs.find? operator with
  | none => .ok run
  | some job => do
      let (answer, run) ←
        run.perform settings operator (.poll operator job) (settings.backend.poll job) pollResult
      match answer with
      | .ok status =>
          if status.isTerminal then
            return { run with progress := (run.progress.record operator status).2 }
          else return run
      | .error _ => return run

/-- Launch every operator that is ready, unless the run is canceled. -/
def launchReady (settings : RunSettings ω) (dag : Dag) (paths : RunPaths) (id : Uuid)
    (run : Run ω) : Except (Stopped ω) (Run ω) :=
  if Limits.isDue run.canceledAt run.now then .error (run.stopAt settings .canceled run.now)
  else run.progress.ready.foldlM (launch settings dag paths id) run

/-- Poll every job that is dispatched. -/
def pollDispatched (settings : RunSettings ω) (run : Run ω) : Except (Stopped ω) (Run ω) :=
  run.progress.dispatched.foldlM (poll settings) run

/-- Run cycles until the run is finished or stops; the next tick is due at `due`. -/
def cycle (settings : RunSettings ω) (dag : Dag) (paths : RunPaths) (id : Uuid) (due : Nat)
    (run : Run ω) : Except (Stopped ω) (Run ω) := do
  let launched ← run.launchReady settings dag paths id
  if launched.progress.isFinished then return launched
  let waited ← launched.wait settings due
  if _watched : due ≤ settings.horizon then
    let polled ← waited.pollDispatched settings
    cycle settings dag paths id (Ticker.next settings.pollInterval due waited.now) polled
  else .error (waited.leave settings)
termination_by settings.horizon + 1 - due
decreasing_by
  have := Ticker.lt_next settings.pollInterval due waited.now
  omega

/-- The report of a finished run. -/
def report (run : Run ω) (id : Uuid) : RunReport where
  run := id
  status := run.progress.overall
  operators := run.progress.states
  dispatchOrder := run.dispatchOrder
  launchErrors := run.launchErrors

/-- The end of a run with a conclusion. -/
def conclude {α : Type} (run : Run ω) (conclusion : Conclusion α) : RunEnd ω α :=
  ⟨conclusion, run.now, run.history.reverse, run.world⟩

/-- The end of a run that stopped. -/
def concludeStopped {α : Type} (stopped : Stopped ω) : RunEnd ω α :=
  stopped.run.conclude <|
    match stopped.reason with
    | .fault fault => .fault fault
    | .unfinished => .unfinished

end Run

namespace Dag

variable {ω : Type}

/-- Run the operators of a workflow in a given order. -/
def execute (dag : Dag) (settings : RunSettings ω) (order : List Uuid) (paths : RunPaths)
    (id : Uuid) (canceledAt : Option Nat) (world : ω) : RunEnd ω RunReport :=
  match (Run.start order dag canceledAt world).cycle settings dag paths id 0 with
  | .ok run => run.conclude (.result (run.report id))
  | .error stopped => Run.concludeStopped stopped

/-- Run a workflow in its execution order, if it is well formed. -/
def executeInOrder (dag : Dag) (settings : RunSettings ω) (paths : RunPaths) (id : Uuid)
    (canceledAt : Option Nat) (world : ω) : RunEnd ω RunReport :=
  match dag.executionOrder with
  | .ok order => dag.execute settings order paths id canceledAt world
  | .error defect => ⟨.fault (.validation defect), 0, [], world⟩

end Dag
end Workflow
