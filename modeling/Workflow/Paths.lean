import Workflow.Fault

/-!
# Where a run keeps its blobs

Every operator of a run has a path for its metadata, and every artifact has one for its content and
one for its schema.  A run takes fresh identifiers as its paths, so that no two runs share one.
-/

namespace Workflow

/-- The paths of a run. -/
structure RunPaths where
  /-- The metadata of each operator. -/
  operatorMetadata : Table Uuid String
  /-- The content of each artifact. -/
  artifactContent : Table Uuid String
  /-- The schema of each artifact. -/
  artifactMetadata : Table Uuid String
  deriving DecidableEq

namespace RunPaths

/-- Give each key a path from a supply of identifiers, beginning at a position. -/
def assign {α : Type} (fresh : Nat → Uuid) (position : Nat) (nodes : Table Uuid α) :
    Table Uuid String :=
  .ofList (nodes.keys.mapIdx fun index id => (id, (fresh (position + index)).toString))

/-- The paths of a run of a workflow, taken from a supply of fresh identifiers. -/
def generate (fresh : Nat → Uuid) (dag : Dag) : RunPaths where
  operatorMetadata := assign fresh 0 dag.operators
  artifactContent := assign fresh dag.operators.size dag.artifacts
  artifactMetadata := assign fresh (dag.operators.size + dag.artifacts.size) dag.artifacts

/-- Every path. -/
def all (paths : RunPaths) : List String :=
  paths.operatorMetadata.values ++ paths.artifactContent.values ++ paths.artifactMetadata.values

/-- The path of an operator or artifact, which should have one. -/
def lookUp (paths : Table Uuid String) (id : Uuid) : Except Fault String :=
  match paths.find? id with
  | some path => .ok path
  | none => .error (.missingStoragePath id)

/-- Where the metadata of an operator is. -/
def operatorMetadataOf (paths : RunPaths) : Uuid → Except Fault String :=
  lookUp paths.operatorMetadata

/-- Where the content of an artifact is. -/
def artifactContentOf (paths : RunPaths) : Uuid → Except Fault String :=
  lookUp paths.artifactContent

/-- Where the schema of an artifact is. -/
def artifactMetadataOf (paths : RunPaths) : Uuid → Except Fault String :=
  lookUp paths.artifactMetadata

/-- The paths that a cleanup deletes, in order. -/
def disposable (paths : RunPaths) (contents : Bool) : List String :=
  paths.operatorMetadata.values ++ paths.artifactMetadata.values ++
    if contents then paths.artifactContent.values else []

/-- Delete the blobs of a run, with or without the contents of artifacts; failures are ignored. -/
def cleanup {σ : Type} (paths : RunPaths) (store : Store σ) (contents : Bool) : StateM σ Unit :=
  fun state =>
    ((), (paths.disposable contents).foldl (fun state path => (store.delete path state).2) state)

/-- Paths in JSON. -/
def toJson (paths : RunPaths) : Json :=
  .obj
    [("operator_metadata_paths", Json.ofTable Json.str paths.operatorMetadata),
      ("artifact_paths", Json.ofTable Json.str paths.artifactContent),
      ("artifact_metadata_paths", Json.ofTable Json.str paths.artifactMetadata)]

/-- Read paths from JSON. -/
def ofJson? (value : Json) : Option RunPaths := do
  let record ←
    Json.record? ["operator_metadata_paths", "artifact_paths", "artifact_metadata_paths"] value
  let table := Json.table? Uuid.ofString? Json.string?
  let operatorMetadata ← record.field? "operator_metadata_paths" table
  let artifactContent ← record.field? "artifact_paths" table
  let artifactMetadata ← record.field? "artifact_metadata_paths" table
  some ⟨operatorMetadata, artifactContent, artifactMetadata⟩

end RunPaths
end Workflow
