import Workflow.Storage
import Workflow.Storage.BlobPath

/-!
# Blobs as files

A directory maps the names from its root down to files and folders.  To put a blob makes the folders
on the way; to delete one leaves them.  The file system refuses a file where a folder is needed, a
folder where a file is needed, names that are too long and NUL characters, and these refusals differ
from a blob that is missing.
-/

namespace Workflow

/-- What stands under a name. -/
inductive DirectoryEntry
  /-- A file with its content. -/
  | file (content : Bytes)
  /-- A folder. -/
  | folder
  deriving DecidableEq

/-- The files and folders below a root. -/
structure Directory where
  /-- Whether the root itself exists. -/
  exists? : Bool
  /-- The entries by their names from the root down. -/
  entries : Table (List String) DirectoryEntry
  deriving DecidableEq

namespace Directory

/-- A root that does not exist yet. -/
def fresh : Directory :=
  ⟨false, .empty⟩

/-- What is found at the end of a path. -/
inductive Found
  /-- Nothing. -/
  | missing
  /-- The system does not even look. -/
  | refused (cause : IoCause)
  /-- A file or a folder. -/
  | entry (entry : DirectoryEntry)
  deriving DecidableEq

/-- The greatest length of one name in bytes. -/
def nameLimit : Nat :=
  255

/-- The length in bytes from which on a whole path is too long. -/
def pathLimit : Nat :=
  4096

/-- Whether a name is longer than a name can be. -/
def isTooLong (name : String) : Bool :=
  nameLimit < name.utf8ByteSize

/-- Whether a text holds a NUL character. -/
def hasNul (text : String) : Bool :=
  text.toList.contains '\x00'

/-- Follow names from a folder on. -/
def follow (directory : Directory) (folder : List String) : List String → Found
  | [] => .entry .folder
  | name :: rest =>
      if isTooLong name then .refused .nameTooLong
      else
        match directory.entries.find? (folder ++ [name]) with
        | none => .missing
        | some (.file content) =>
            if rest.isEmpty then .entry (.file content) else .refused .notFolder
        | some .folder => directory.follow (folder ++ [name]) rest

/-- Find what a path leads to; only a folder may be followed by a slash or a dot. -/
def find (directory : Directory) (text : String) (path : BlobPath) : Found :=
  if hasNul text then .refused .nulCharacter
  else if pathLimit ≤ text.utf8ByteSize then .refused .nameTooLong
  else if !directory.exists? then .missing
  else
    match directory.follow [] path.names with
    | .entry (.file content) =>
        if path.ending = .plain then .entry (.file content) else .refused .notFolder
    | found => found

/-- Make folders below a folder, as far as that is possible. -/
def makeFolders (directory : Directory) (folder : List String) :
    List String → Directory × Option IoCause
  | [] => (directory, none)
  | name :: rest =>
      if isTooLong name then (directory, some .nameTooLong)
      else
        match directory.entries.find? (folder ++ [name]) with
        | some .folder => directory.makeFolders (folder ++ [name]) rest
        | some (.file _) => (directory, some (if rest.isEmpty then .alreadyExists else .notFolder))
        | none =>
            let entries := directory.entries.insert (folder ++ [name]) .folder
            ({ directory with entries } : Directory).makeFolders (folder ++ [name]) rest

/-- Make the root and the folders of a path. -/
def makeParents (directory : Directory) (path : BlobPath) : Directory × Option IoCause :=
  let parent := "/".intercalate path.folders
  if hasNul parent then (directory, some .nulCharacter)
  else if pathLimit ≤ parent.utf8ByteSize then (directory, some .nameTooLong)
  else ({ directory with exists? := true } : Directory).makeFolders [] path.folders

/-- Write a file into a folder that exists. -/
def writeFile (directory : Directory) (text : String) (path : BlobPath) (content : Bytes) :
    Except StorageError Directory :=
  if path.ending = .slash ∧ !hasNul text then .error (.io text .isFolder)
  else
    match directory.find text path with
    | .refused cause => .error (.io text cause)
    | .entry .folder => .error (.io text .isFolder)
    | .entry (.file _) =>
        .ok { directory with entries := directory.entries.insert path.names (.file content) }
    | .missing =>
        if path.ending = .plain then
          .ok { directory with entries := directory.entries.insert path.names (.file content) }
        else .error (.notFound text)

/-- Read the file at a path. -/
def get (text : String) : StateM Directory (Except StorageError Bytes) := fun directory =>
  match BlobPath.ofString? text with
  | none => (.error (.invalidPath text), directory)
  | some path =>
      match directory.find text path with
      | .missing => (.error (.notFound text), directory)
      | .refused cause => (.error (.io text cause), directory)
      | .entry .folder => (.error (.io text .isFolder), directory)
      | .entry (.file content) => (.ok content, directory)

/-- Write the file at a path, and make its folders first. -/
def put (text : String) (content : Bytes) : StateM Directory (Except StorageError Unit) :=
  fun directory =>
    match BlobPath.ofString? text with
    | none => (.error (.invalidPath text), directory)
    | some path =>
        match directory.makeParents path with
        | (directory, some cause) => (.error (.io text cause), directory)
        | (directory, none) =>
            match directory.writeFile text path content with
            | .error failure => (.error failure, directory)
            | .ok next => (.ok (), next)

/-- Remove the file at a path. -/
def delete (text : String) : StateM Directory (Except StorageError Unit) := fun directory =>
  match BlobPath.ofString? text with
  | none => (.error (.invalidPath text), directory)
  | some path =>
      match directory.find text path with
      | .missing => (.ok (), directory)
      | .refused cause => (.error (.io text cause), directory)
      | .entry .folder => (.error (.io text .isFolder), directory)
      | .entry (.file _) =>
          (.ok (), { directory with entries := directory.entries.erase path.names })

/-- The store below a root. -/
def store : Store Directory :=
  ⟨get, put, delete⟩

/-- The content of every file by its relative path, and nothing under the path of every folder that
is empty. -/
def listing (directory : Directory) : List (String × Option Bytes) :=
  directory.entries.entries.filterMap fun (names, entry) =>
    let path := "/".intercalate names
    match entry with
    | .file content => some (path, some content)
    | .folder =>
        let holds (other : List String) : Bool := names.isPrefixOf other && other != names
        if directory.entries.keys.any holds then none else some (path ++ "/", none)

end Directory
end Workflow
