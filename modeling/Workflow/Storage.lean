import Workflow.Json.Reader

/-!
# Blob storage

A store keeps blobs under paths.  It is given by its three operations on a state of any type, so
that stores can be wrapped: `Store.recording` notes every access, `Store.failing` refuses some of
them, and `Store.onSecond` works on a part of a larger state.
-/

namespace Workflow

/-- Why the file system refuses an access. -/
inductive IoCause
  /-- A folder stands where a file is needed. -/
  | isFolder
  /-- A file stands where a folder is needed. -/
  | notFolder
  /-- A file stands where a folder is to be made. -/
  | alreadyExists
  /-- A name or a path is too long. -/
  | nameTooLong
  /-- The path holds a NUL character. -/
  | nulCharacter
  deriving DecidableEq

/-- What the system says about a refused access. -/
def IoCause.message : IoCause → String
  | isFolder => "Is a directory (os error 21)"
  | notFolder => "Not a directory (os error 20)"
  | alreadyExists => "File exists (os error 17)"
  | nameTooLong => "File name too long (os error 36)"
  | nulCharacter => "file name contained an unexpected NUL byte"

/-- Why an access to a store fails. -/
inductive StorageError
  /-- There is no blob under the path. -/
  | notFound (path : String)
  /-- No blob can be kept under the path. -/
  | invalidPath (path : String)
  /-- The file system refuses the access. -/
  | io (path : String) (cause : IoCause)
  /-- The blob is not JSON of the expected shape. -/
  | json (path : String)
  deriving DecidableEq

/-- What is said about a failed access. -/
def StorageError.message : StorageError → String
  | notFound path => "blob not found: '" ++ path ++ "'"
  | invalidPath path => "invalid blob path '" ++ path ++ "'"
  | io path cause => "io error on blob '" ++ path ++ "': " ++ cause.message
  | json path => "blob '" ++ path ++ "' is not valid JSON"

/-- The operations of a store whose state has type `σ`. -/
structure Store (σ : Type) where
  /-- Fetch the content of a blob. -/
  get : String → StateM σ (Except StorageError Bytes)
  /-- Keep a content under a path, in place of any other. -/
  put : String → Bytes → StateM σ (Except StorageError Unit)
  /-- Remove a blob; it is no error if there is none. -/
  delete : String → StateM σ (Except StorageError Unit)

/-- The three kinds of access. -/
inductive AccessKind
  /-- A blob is fetched. -/
  | get
  /-- A blob is written. -/
  | put
  /-- A blob is removed. -/
  | delete
  deriving DecidableEq

/-- The name of a kind of access. -/
def AccessKind.name : AccessKind → String
  | get => "get"
  | put => "put"
  | delete => "delete"

/-- The kind of access with a given name. -/
def AccessKind.ofName? (name : String) : Option AccessKind :=
  [get, put, delete].find? fun kind => kind.name == name

/-- One access to a store. -/
structure Access where
  /-- What was asked for. -/
  kind : AccessKind
  /-- The path it was asked of. -/
  path : String
  deriving DecidableEq

/-- The state of a store together with the accesses made to it, first one first. -/
structure Recorded (σ : Type) where
  /-- The state of the store itself. -/
  state : σ
  /-- The accesses. -/
  accesses : List Access

namespace Store

variable {σ ω : Type}

/-- Fetch a blob and read it as JSON. -/
def readJson {α : Type} (store : Store σ) (read : Json → Option α) (path : String) :
    StateM σ (Except StorageError α) := do
  match ← store.get path with
  | .error failure => return .error failure
  | .ok content =>
      match Json.read? content >>= read with
      | some value => return .ok value
      | none => return .error (.json path)

/-- Put blobs one after the other, up to the first failure. -/
def putAll (store : Store σ) : List (String × Bytes) → StateM σ (Except StorageError Unit)
  | [] => return .ok ()
  | (path, content) :: rest => do
      match ← store.put path content with
      | .ok () => store.putAll rest
      | .error failure => return .error failure

/-- Put blobs one after the other, whatever becomes of them. -/
def putEach (store : Store σ) (blobs : List (String × Bytes)) (state : σ) : σ :=
  blobs.foldl (fun state (path, content) => (store.put path content state).2) state

/-- Run an action on the second component of a pair. -/
def actOnSecond {α : Type} (action : StateM σ α) : StateM (ω × σ) α :=
  fun whole =>
    let (result, next) := action whole.2
    (result, (whole.1, next))

/-- The store on the second component of a pair. -/
def onSecond (store : Store σ) : Store (ω × σ) where
  get path := actOnSecond (store.get path)
  put path content := actOnSecond (store.put path content)
  delete path := actOnSecond (store.delete path)

/-- Note an access and then make it. -/
def recordAccess {α : Type} (access : Access) (action : StateM σ α) : StateM (Recorded σ) α :=
  fun recorded =>
    let (result, next) := action recorded.state
    (result, ⟨next, recorded.accesses ++ [access]⟩)

/-- The store that notes every access. -/
def recording (store : Store σ) : Store (Recorded σ) where
  get path := recordAccess ⟨.get, path⟩ (store.get path)
  put path content := recordAccess ⟨.put, path⟩ (store.put path content)
  delete path := recordAccess ⟨.delete, path⟩ (store.delete path)

/-- The store that refuses every access of some kinds as if its path were invalid. -/
def failing (refused : List AccessKind) (store : Store σ) : Store σ where
  get path := if .get ∈ refused then pure (.error (.invalidPath path)) else store.get path
  put path content :=
    if .put ∈ refused then pure (.error (.invalidPath path)) else store.put path content
  delete path := if .delete ∈ refused then pure (.error (.invalidPath path)) else store.delete path

end Store
end Workflow
