/-!
# Paths below a root

A path is cut at its slashes.  Empty segments and dots drop out, except that a dot may not come
first, and two dots may not occur at all; so a path that is accepted names something strictly below
the root.  What follows the last name matters to the file system and is kept.
-/

namespace Workflow

/-- What follows the last name of a path. -/
inductive PathEnding
  /-- Nothing. -/
  | plain
  /-- One or more slashes. -/
  | slash
  /-- A dot as a segment of its own. -/
  | dot
  deriving DecidableEq

/-- A path below a root. -/
structure BlobPath where
  /-- The folders from the root down. -/
  folders : List String
  /-- The last name. -/
  name : String
  /-- What follows the last name. -/
  ending : PathEnding
  deriving DecidableEq

namespace BlobPath

/-- The segments between slashes, empty ones included. -/
def segments (text : String) : List String :=
  (text.toList.splitOn '/').map String.ofList

/-- Whether a segment names something. -/
def isName (segment : String) : Bool :=
  segment != "" && segment != "."

/-- Whether segments lead to a place below the root. -/
def isAccepted (segments : List String) : Bool :=
  segments.head?.any isName && !segments.contains ".."

/-- What follows the last name among segments. -/
def endingOf (segments : List String) : PathEnding :=
  match segments.reverse.takeWhile (!isName ·) with
  | [] => .plain
  | rest => if rest.contains "." then .dot else .slash

/-- Cut a path into its names, if it is accepted. -/
def ofString? (text : String) : Option BlobPath :=
  let segments := segments text
  let names := segments.filter isName
  match names.getLast? with
  | some name =>
      if isAccepted segments then some ⟨names.dropLast, name, endingOf segments⟩ else none
  | none => none

/-- All names from the root down. -/
def names (path : BlobPath) : List String :=
  path.folders ++ [path.name]

end BlobPath
end Workflow
