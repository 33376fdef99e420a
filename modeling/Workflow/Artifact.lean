import Workflow.Json.Record
import Workflow.Uuid

/-!
# Artifacts

An artifact is a piece of data that operators write and read.  Its kind says how the content of its
blob is understood.
-/

namespace Workflow

namespace Uuid

/-- An identifier in JSON. -/
def toJson (id : Uuid) : Json :=
  .str id.toString

/-- Read an identifier from JSON. -/
def ofJson? : Json → Option Uuid
  | .str text => ofString? text
  | _ => none

end Uuid

/-- How the content of an artifact is understood. -/
inductive ArtifactKind
  /-- Rows with a schema in a blob of its own. -/
  | table
  /-- One number. -/
  | float
  /-- One truth value. -/
  | bool
  /-- Any text, by convention JSON. -/
  | json
  deriving DecidableEq

namespace ArtifactKind

/-- Every kind with its name. -/
def names : List (String × ArtifactKind) :=
  [("table", .table), ("float", .float), ("bool", .bool), ("json", .json)]

/-- The name of a kind. -/
def name : ArtifactKind → String
  | table => "table"
  | float => "float"
  | bool => "bool"
  | json => "json"

/-- A kind in JSON: an object with nothing but its tag. -/
def toJson (kind : ArtifactKind) : Json :=
  .obj [(Json.tagName, .str kind.name)]

/-- Read a kind from JSON; an object may have other fields, an array no other items. -/
def ofJson? (value : Json) : Option ArtifactKind :=
  match Json.tagged? value with
  | some (tag, .obj _) | some (tag, .arr []) => names.lookup tag
  | _ => none

end ArtifactKind

/-- A piece of data that operators write and read. -/
structure Artifact where
  /-- The identifier that it carries. -/
  id : Uuid
  /-- A name for people. -/
  name : String
  /-- A text for people. -/
  description : String
  /-- How its content is understood. -/
  kind : ArtifactKind
  deriving DecidableEq

namespace Artifact

/-- An artifact in JSON. -/
def toJson (artifact : Artifact) : Json :=
  .obj
    [("id", artifact.id.toJson), ("name", .str artifact.name),
      ("description", .str artifact.description), ("spec", artifact.kind.toJson)]

/-- Read an artifact from JSON. -/
def ofJson? (value : Json) : Option Artifact := do
  let record ← Json.record? ["id", "name", "description", "spec"] value
  let id ← record.field? "id" Uuid.ofJson?
  let name ← record.field? "name" Json.string?
  let description ← record.fieldOr? "description" "" Json.string?
  let kind ← record.field? "spec" ArtifactKind.ofJson?
  some ⟨id, name, description, kind⟩

end Artifact
end Workflow
