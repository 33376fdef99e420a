import Workflow.Dag

/-!
# Workflows as edges

An edge is one input or output of an operator together with its place in the operator's list.
`Dag.edges` lists the edges of a workflow, and `Dag.ofEdges` attaches edges to operators in the
order of their places; edges with one place keep the order in which they are given.
-/

namespace Workflow

/-- Which way an edge points. -/
inductive EdgeKind
  /-- An output. -/
  | operatorToArtifact
  /-- An input. -/
  | artifactToOperator
  deriving DecidableEq

namespace EdgeKind

/-- Every kind with its name. -/
def names : List (String × EdgeKind) :=
  [("operator_to_artifact", .operatorToArtifact), ("artifact_to_operator", .artifactToOperator)]

/-- The name of a kind. -/
def name : EdgeKind → String
  | operatorToArtifact => "operator_to_artifact"
  | artifactToOperator => "artifact_to_operator"

end EdgeKind

/-- One input or output of an operator. -/
structure Edge where
  /-- Which way it points. -/
  kind : EdgeKind
  /-- Where it begins. -/
  source : Uuid
  /-- Where it ends. -/
  target : Uuid
  /-- Its place among the inputs or outputs of the operator. -/
  place : UInt32
  deriving DecidableEq

namespace Edge

/-- The end of an edge that is an operator. -/
def operator (edge : Edge) : Uuid :=
  match edge.kind with
  | .operatorToArtifact => edge.source
  | .artifactToOperator => edge.target

/-- An edge in JSON. -/
def toJson (edge : Edge) : Json :=
  .obj
    [("kind", .str edge.kind.name), ("from", edge.source.toJson), ("to", edge.target.toJson),
      ("idx", .ofNat edge.place.toNat)]

/-- Read an edge from JSON. -/
def ofJson? (value : Json) : Option Edge := do
  let record ← Json.record? ["kind", "from", "to", "idx"] value
  let kind ← record.field? "kind" (Json.name? EdgeKind.names)
  let source ← record.field? "from" Uuid.ofJson?
  let target ← record.field? "to" Uuid.ofJson?
  let place ← record.field? "idx" (Json.natBelow? (Nat.pow 2 32))
  some ⟨kind, source, target, .ofNat place⟩

end Edge

/-- The edges of an operator: its inputs, then its outputs. -/
def Operator.edges (operator : Operator) : List Edge :=
  operator.inputs.mapIdx (fun place artifact =>
      ⟨.artifactToOperator, artifact, operator.id, .ofNat place⟩) ++
    operator.outputs.mapIdx fun place artifact =>
      ⟨.operatorToArtifact, operator.id, artifact, .ofNat place⟩

/-- The operator with one more input or output. -/
def Operator.attach (operator : Operator) (edge : Edge) : Operator :=
  match edge.kind with
  | .operatorToArtifact => { operator with outputs := operator.outputs ++ [edge.target] }
  | .artifactToOperator => { operator with inputs := operator.inputs ++ [edge.source] }

/-- The operator without inputs and outputs. -/
def Operator.detached (operator : Operator) : Operator :=
  { operator with inputs := [], outputs := [] }

/-- An edge names an operator that is not given. -/
structure UnknownOperator where
  /-- The operator that the edge names. -/
  id : Uuid
  deriving DecidableEq

namespace Dag

/-- The edges of a workflow, operator by operator. -/
def edges (dag : Dag) : List Edge :=
  dag.operators.values.flatMap Operator.edges

/-- Attach one edge to the operator that it names. -/
def attachEdge (operators : Table Uuid Operator) (edge : Edge) :
    Except UnknownOperator (Table Uuid Operator) :=
  match operators.find? edge.operator with
  | none => .error ⟨edge.operator⟩
  | some operator => .ok (operators.insert edge.operator (operator.attach edge))

/-- The workflow whose operators have exactly the inputs and outputs that the edges say. -/
def ofEdges (metadata : Metadata) (operators : List Operator) (artifacts : List Artifact)
    (edges : List Edge) : Except UnknownOperator Dag := do
  let ordered := edges.mergeSort fun first second => first.place ≤ second.place
  let operators ← ordered.foldlM attachEdge (keyedOperators (operators.map Operator.detached))
  return ⟨metadata, operators, keyedArtifacts artifacts⟩

end Dag
end Workflow
