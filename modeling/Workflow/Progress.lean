import Workflow.Dag.Graph
import Workflow.Status

/-!
# The progress of a run

Each operator of a run is in one of six states.  It becomes ready once all its producers have
succeeded; when it fails, everything that can be reached from it and is not ready yet is skipped.
`markDispatched` and `record` are the only moves.
-/

namespace Workflow

/-- Where an operator stands in a run. -/
inductive OperatorState
  /-- Some producer has not succeeded yet. -/
  | notReady
  /-- Every producer has succeeded. -/
  | ready
  /-- Its job was launched. -/
  | dispatched
  /-- Its job succeeded. -/
  | succeeded
  /-- Its job failed, was canceled or could not be launched. -/
  | failed
  /-- It never runs, because an operator that it depends on failed. -/
  | skipped
  deriving DecidableEq

namespace OperatorState

/-- Every state with its name. -/
def names : List (String × OperatorState) :=
  [("not_ready", .notReady), ("ready", .ready), ("dispatched", .dispatched),
    ("succeeded", .succeeded), ("failed", .failed), ("skipped", .skipped)]

/-- The name of a state. -/
def name : OperatorState → String
  | notReady => "not_ready"
  | ready => "ready"
  | dispatched => "dispatched"
  | succeeded => "succeeded"
  | failed => "failed"
  | skipped => "skipped"

/-- A state in JSON. -/
def toJson (state : OperatorState) : Json :=
  .str state.name

/-- Read a state from JSON. -/
def ofJson? : Json → Option OperatorState :=
  Json.name? names

/-- Whether the state never changes again. -/
def isTerminal : OperatorState → Bool
  | succeeded | failed | skipped => true
  | notReady | ready | dispatched => false

/-- Whether the operator waits to be launched or for its job. -/
def isActive : OperatorState → Bool
  | ready | dispatched => true
  | notReady | succeeded | failed | skipped => false

end OperatorState

/-- The states of the operators of a run. -/
structure Progress where
  /-- The operators in the order in which they are considered. -/
  order : List Uuid
  /-- Who depends on whom. -/
  graph : Graph
  /-- The state of each operator. -/
  states : Table Uuid OperatorState

namespace Progress

/-- The state of an operator. -/
def state? (progress : Progress) (operator : Uuid) : Option OperatorState :=
  progress.states.find? operator

/-- Whether every producer of an operator has succeeded. -/
def isSatisfied (progress : Progress) (operator : Uuid) : Bool :=
  (progress.graph.predecessorsOf operator).all fun producer =>
    progress.state? producer == some .succeeded

/-- Make every operator ready whose producers have all succeeded. -/
def promote (progress : Progress) : Progress :=
  { progress with
    states := progress.states.map fun operator state =>
      if state = .notReady ∧ progress.isSatisfied operator then .ready else state }

/-- The beginning of a run over operators in a given order. -/
def start (order : List Uuid) (graph : Graph) : Progress :=
  promote ⟨order, graph, .ofList (order.map (·, .notReady))⟩

/-- The operators in a given state, in order. -/
def inState (progress : Progress) (wanted : OperatorState) : List Uuid :=
  progress.order.filter fun operator => progress.state? operator == some wanted

/-- The operators that can be launched, in order. -/
def ready (progress : Progress) : List Uuid :=
  progress.inState .ready

/-- The operators whose jobs run, in order. -/
def dispatched (progress : Progress) : List Uuid :=
  progress.inState .dispatched

/-- Change the state of an operator. -/
def setState (progress : Progress) (operator : Uuid) (state : OperatorState) : Progress :=
  { progress with states := progress.states.insert operator state }

/-- Note that the job of a ready operator was launched; nothing happens in another state. -/
def markDispatched (progress : Progress) (operator : Uuid) : Progress :=
  match progress.state? operator with
  | some .ready => progress.setState operator .dispatched
  | _ => progress

/-- Whether a failure of `failed` skips an operator. -/
def isSkippedBy (progress : Progress) (failed operator : Uuid) : Bool :=
  (progress.graph.descendantsOf failed).contains operator &&
    progress.state? operator == some .notReady

/-- Skip every descendant of an operator that is not ready yet. -/
def skipDescendants (progress : Progress) (failed : Uuid) : List Uuid × Progress :=
  let skipped := (progress.graph.descendantsOf failed).filter fun operator =>
    progress.state? operator == some .notReady
  (skipped,
    { progress with
      states := progress.states.map fun operator state =>
        if progress.isSkippedBy failed operator then .skipped else state })

/-- Apply a reported status; returns the operators that it skips, ascending.  Success counts for a
dispatched operator, failure and cancellation for a ready or dispatched one, and every other report
changes nothing. -/
def record (progress : Progress) (operator : Uuid) (status : Status) : List Uuid × Progress :=
  match progress.state? operator, status with
  | some .dispatched, .succeeded => ([], (progress.setState operator .succeeded).promote)
  | some .ready, .failed | some .ready, .canceled
  | some .dispatched, .failed | some .dispatched, .canceled =>
      (progress.setState operator .failed).skipDescendants operator
  | _, _ => ([], progress)

/-- Launch every ready operator and report one status for every job; returns the operators that this
skips, in the order of the reports. -/
def settleAll (progress : Progress) (status : Status) : List Uuid × Progress :=
  let progress := progress.ready.foldl markDispatched progress
  progress.dispatched.foldl
    (fun (skipped, progress) operator =>
      let (more, progress) := progress.record operator status
      (skipped ++ more, progress))
    ([], progress)

/-- Whether no operator waits to be launched or for its job. -/
def isFinished (progress : Progress) : Bool :=
  !progress.states.values.any OperatorState.isActive

/-- Success if every operator succeeded, and failure otherwise. -/
def overall (progress : Progress) : Status :=
  if progress.states.values.all (· == .succeeded) then .succeeded else .failed

end Progress
end Workflow
