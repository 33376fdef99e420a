import Workflow.Dag

/-!
# Who depends on whom

The graph of a workflow links an operator to each operator that reads one of its outputs.  Operators
are known by the identifiers that they carry.  `descendantsOf` is everything that can be reached
over one or more links.
-/

namespace Workflow

/-- The links of a workflow. -/
structure Graph where
  /-- The operators that write an artifact, with repetitions, in key order. -/
  producers : Table Uuid (List Uuid)
  /-- The operators that read an artifact, with repetitions, in key order. -/
  consumers : Table Uuid (List Uuid)
  /-- For each operator those that write one of its inputs, ascending. -/
  predecessors : Table Uuid (List Uuid)
  /-- For each operator those that read one of its outputs, ascending. -/
  successors : Table Uuid (List Uuid)

namespace Graph

/-- The pairs of an artifact and an operator that writes it. -/
def outputPairs (dag : Dag) : List (Uuid × Uuid) :=
  dag.operators.values.flatMap fun operator => operator.outputs.map (·, operator.id)

/-- The pairs of an artifact and an operator that reads it. -/
def inputPairs (dag : Dag) : List (Uuid × Uuid) :=
  dag.operators.values.flatMap fun operator => operator.inputs.map (·, operator.id)

/-- The pairs of a producer and a consumer of one artifact. -/
def links (producers : Table Uuid (List Uuid)) (dag : Dag) : List (Uuid × Uuid) :=
  (inputPairs dag).flatMap fun (artifact, consumer) =>
    ((producers.find? artifact).getD []).map (·, consumer)

/-- The graph of a workflow. -/
def build (dag : Dag) : Graph :=
  let producers := Table.group (outputPairs dag)
  let links := links producers dag
  let operators := ascending (dag.operators.values.map Operator.id)
  { producers
    consumers := Table.group (inputPairs dag)
    predecessors := .ofList (operators.map fun id =>
      (id, ascending ((links.filter (·.2 == id)).map (·.1))))
    successors := .ofList (operators.map fun id =>
      (id, ascending ((links.filter (·.1 == id)).map (·.2)))) }

/-- The operators that write an artifact. -/
def producersOf (graph : Graph) (artifact : Uuid) : List Uuid :=
  (graph.producers.find? artifact).getD []

/-- The operators that read an artifact. -/
def consumersOf (graph : Graph) (artifact : Uuid) : List Uuid :=
  (graph.consumers.find? artifact).getD []

/-- The operators that write an input of an operator. -/
def predecessorsOf (graph : Graph) (operator : Uuid) : List Uuid :=
  (graph.predecessors.find? operator).getD []

/-- The operators that read an output of an operator. -/
def successorsOf (graph : Graph) (operator : Uuid) : List Uuid :=
  (graph.successors.find? operator).getD []

/-- The operators. -/
def operators (graph : Graph) : List Uuid :=
  graph.predecessors.keys

/-- The number of operators. -/
def size (graph : Graph) : Nat :=
  graph.predecessors.size

/-- The operators that wait for nothing, ascending. -/
def roots (graph : Graph) : List Uuid :=
  (graph.predecessors.filter fun _ producers => producers.isEmpty).keys

/-- What remains unseen after everything on the stack has been followed. -/
def explore (graph : Graph) (unseen : List Uuid) : List Uuid → List Uuid
  | [] => unseen
  | id :: stack =>
      if _member : id ∈ unseen then
        graph.explore (unseen.erase id) (graph.successorsOf id ++ stack)
      else graph.explore unseen stack
termination_by stack => (unseen.length, stack.length)
decreasing_by
  · have := List.length_erase_of_mem _member
    have := List.length_pos_of_mem _member
    exact Prod.Lex.left _ _ (by omega)
  · exact Prod.Lex.right _ (by simp)

/-- Everything reachable from an operator over one or more links, ascending. -/
def descendantsOf (graph : Graph) (operator : Uuid) : List Uuid :=
  let unseen := graph.explore graph.operators (graph.successorsOf operator)
  graph.operators.filter fun id => !unseen.contains id

end Graph
end Workflow
