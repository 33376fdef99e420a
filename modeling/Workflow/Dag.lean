import Workflow.Operator
import Workflow.Timestamp.Reader

/-!
# Workflows

A workflow is a graph of operators and artifacts.  Both are kept under keys; an operator or artifact
also carries an identifier, which a workflow built from its parts uses as the key.  A workflow that
was read from JSON may keep it under another one.
-/

namespace Workflow

/-- What is known of a workflow beside its graph. -/
structure Metadata where
  /-- The identifier of the workflow. -/
  id : Uuid
  /-- Its name. -/
  name : String
  /-- When it was made. -/
  createdAt : Timestamp
  deriving DecidableEq

namespace Metadata

/-- Metadata in JSON. -/
def toJson (metadata : Metadata) : Json :=
  .obj
    [("id", metadata.id.toJson), ("name", .str metadata.name),
      ("created_at", .str metadata.createdAt.toString)]

/-- Read metadata from JSON. -/
def ofJson? (value : Json) : Option Metadata := do
  let record ← Json.record? ["id", "name", "created_at"] value
  let id ← record.field? "id" Uuid.ofJson?
  let name ← record.field? "name" Json.string?
  let createdAt ← record.field? "created_at" Json.string? >>= Timestamp.ofString?
  some ⟨id, name, createdAt⟩

end Metadata

/-- A workflow. -/
structure Dag where
  /-- What is known of it beside its graph. -/
  metadata : Metadata
  /-- The operators, by key. -/
  operators : Table Uuid Operator
  /-- The artifacts, by key. -/
  artifacts : Table Uuid Artifact
  deriving DecidableEq

namespace Dag

/-- Operators under their own identifiers, of which the last of each counts. -/
def keyedOperators (operators : List Operator) : Table Uuid Operator :=
  .ofList (operators.map fun operator => (operator.id, operator))

/-- Artifacts under their own identifiers, of which the last of each counts. -/
def keyedArtifacts (artifacts : List Artifact) : Table Uuid Artifact :=
  .ofList (artifacts.map fun artifact => (artifact.id, artifact))

/-- The workflow of operators and artifacts under their own identifiers. -/
def ofParts (metadata : Metadata) (operators : List Operator) (artifacts : List Artifact) : Dag :=
  ⟨metadata, keyedOperators operators, keyedArtifacts artifacts⟩

/-- The workflow without the operators that send data to a service. -/
def withoutLoads (dag : Dag) : Dag :=
  { dag with operators := dag.operators.filter fun _ operator => !operator.task.isLoad }

/-- Whether every operator and artifact is kept under its own identifier. -/
def KeysMatch (dag : Dag) : Prop :=
  (∀ entry ∈ dag.operators.entries, entry.2.id = entry.1) ∧
    ∀ entry ∈ dag.artifacts.entries, entry.2.id = entry.1

/-- A workflow in JSON. -/
def toJson (dag : Dag) : Json :=
  .obj
    [("metadata", dag.metadata.toJson), ("operators", Json.ofTable Operator.toJson dag.operators),
      ("artifacts", Json.ofTable Artifact.toJson dag.artifacts)]

/-- Read a workflow from JSON. -/
def ofJson? (value : Json) : Option Dag := do
  let record ← Json.record? ["metadata", "operators", "artifacts"] value
  let metadata ← record.field? "metadata" Metadata.ofJson?
  let operators ←
    record.fieldOr? "operators" .empty (Json.table? Uuid.ofString? Operator.ofJson?)
  let artifacts ←
    record.fieldOr? "artifacts" .empty (Json.table? Uuid.ofString? Artifact.ofJson?)
  some ⟨metadata, operators, artifacts⟩

end Dag
end Workflow
