import Workflow.Storage

/-!
# Blobs in memory

Every path is as good as any other: a blob is found under exactly the text under which it was put.
-/

namespace Workflow

/-- Blobs by path. -/
abbrev Memory :=
  Table String Bytes

namespace Memory

/-- The content under a path. -/
def get (path : String) : StateM Memory (Except StorageError Bytes) := fun blobs =>
  match blobs.find? path with
  | some content => (.ok content, blobs)
  | none => (.error (.notFound path), blobs)

/-- Keep a content under a path. -/
def put (path : String) (content : Bytes) : StateM Memory (Except StorageError Unit) := fun blobs =>
  (.ok (), blobs.insert path content)

/-- Remove the blob under a path. -/
def delete (path : String) : StateM Memory (Except StorageError Unit) := fun blobs =>
  (.ok (), blobs.erase path)

/-- The store in memory. -/
def store : Store Memory :=
  ⟨get, put, delete⟩

end Memory
end Workflow
