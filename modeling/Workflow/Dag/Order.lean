import Workflow.Dag.Graph

/-!
# The order in which a workflow runs

A workflow is well formed when it has an operator, every input and output is one of its artifacts,
every artifact is an output, and the operators can be sorted so that producers come first.
`Dag.executionOrder` returns that order or the first rule that is broken.  The sort counts for each
operator the producers that are still unsorted; whenever several operators wait for none, the
smallest comes next.
-/

namespace Workflow

/-- The rule of well-formedness that a workflow breaks. -/
inductive Defect
  /-- There is no operator. -/
  | noOperator
  /-- An input or output is not an artifact of the workflow. -/
  | undefinedArtifact
  /-- An artifact is not an output. -/
  | unreachableArtifact
  /-- The operators have no order that puts producers first. -/
  | unexecutableOperator
  deriving DecidableEq

/-- What is said about a defect. -/
def Defect.message : Defect → String
  | noOperator => "the workflow has no operators"
  | undefinedArtifact => "an operator references an undefined artifact"
  | unreachableArtifact => "an artifact is never produced by any operator"
  | unexecutableOperator =>
      "an operator can never be executed because its inputs are never all available"

/-- A topological sort in progress. -/
structure Sorting where
  /-- For each operator the number of its producers that are not sorted yet. -/
  pending : Table Uuid Nat
  /-- The operators that wait for no producer and are not sorted yet. -/
  ready : Table Uuid Unit
  /-- The operators sorted so far. -/
  sorted : List Uuid

namespace Sorting

/-- The sort before its first step. -/
def start (graph : Graph) (operators : List Uuid) : Sorting :=
  let pending := Table.ofList (operators.map fun id => (id, (graph.predecessorsOf id).length))
  { pending
    ready := (pending.filter fun _ count => count == 0).map fun _ _ => ()
    sorted := [] }

/-- Count one producer of an operator as sorted; the last one makes the operator ready. -/
def release (sorting : Sorting) (operator : Uuid) : Sorting :=
  match sorting.pending.find? operator with
  | none => sorting
  | some count =>
      { sorting with
        pending := sorting.pending.insert operator (count - 1)
        ready := if count = 1 then sorting.ready.insert operator () else sorting.ready }

/-- Sort the smallest operator that is ready. -/
def step (graph : Graph) (sorting : Sorting) : Option Sorting :=
  match sorting.ready.uncons? with
  | none => none
  | some ((operator, _), ready) =>
      some ((graph.successorsOf operator).foldl release
        { sorting with ready, sorted := sorting.sorted ++ [operator] })

/-- Take at most a number of steps. -/
def run (graph : Graph) : (steps : Nat) → Sorting → Sorting
  | 0, sorting => sorting
  | steps + 1, sorting =>
      match sorting.step graph with
      | none => sorting
      | some next => run graph steps next

end Sorting

namespace Dag

/-- Whether every input and output is an artifact of the workflow. -/
def referencesDefined (dag : Dag) : Bool :=
  dag.operators.values.all fun operator =>
    (operator.inputs ++ operator.outputs).all dag.artifacts.contains

/-- Whether every artifact is an output of an operator. -/
def artifactsProduced (dag : Dag) : Bool :=
  dag.artifacts.keys.all fun id =>
    dag.operators.values.any fun operator => operator.outputs.contains id

/-- The operators in the order of a topological sort, as far as it gets; as each step sorts another
operator, there are no more steps than operators. -/
def sortedOperators (dag : Dag) : List Uuid :=
  let graph := Graph.build dag
  ((Sorting.start graph dag.operators.keys).run graph dag.operators.size).sorted

/-- The operators in the order in which they run, or the first rule that the workflow breaks. -/
def executionOrder (dag : Dag) : Except Defect (List Uuid) :=
  if dag.operators.isEmpty then .error .noOperator
  else if !dag.referencesDefined then .error .undefinedArtifact
  else if !dag.artifactsProduced then .error .unreachableArtifact
  else
    let sorted := dag.sortedOperators
    if sorted.length = dag.operators.size then .ok sorted else .error .unexecutableOperator

/-- Check that a workflow is well formed. -/
def validate (dag : Dag) : Except Defect Unit :=
  dag.executionOrder.map fun _ => ()

end Dag
end Workflow
