import Workflow.Json

/-!
# Records and alternatives in JSON

A record is written as an object, whose unknown fields are ignored, or as the array of its fields in
their order, from whose end optional fields may be missing.  An alternative is written as its name,
as an object with its name as the only key, or, where it carries a tag, with the tag among its
fields or in front of them.
-/

namespace Workflow
namespace Json

/-- The fields of a record that were present, by name. -/
abbrev Record :=
  List (String × Json)

/-- Read the fields of a record; a field that occurs twice, and an item too many, are refused. -/
def record? (names : List String) : Json → Option Record
  | .obj fields =>
      let known := fields.filter fun field => names.contains field.1
      if (known.map (·.1)).Nodup then some known else none
  | .arr items => if items.length ≤ names.length then some (names.zip items) else none
  | _ => none

/-- Read a field that must be present. -/
def Record.field? {α : Type} (record : Record) (name : String) (read : Json → Option α) :
    Option α :=
  record.lookup name >>= read

/-- Read a field that has a value when it is missing. -/
def Record.fieldOr? {α : Type} (record : Record) (name : String) (missing : α)
    (read : Json → Option α) : Option α :=
  match record.lookup name with
  | none => some missing
  | some value => read value

/-- Read a string. -/
def string? : Json → Option String
  | .str value => some value
  | _ => none

/-- Read a truth value. -/
def bool? : Json → Option Bool
  | .bool value => some value
  | _ => none

/-- Read an integer from zero up to a bound, not included. -/
def natBelow? (bound : Nat) : Json → Option Nat
  | .num (.int value) => if 0 ≤ value ∧ value < bound then some value.toNat else none
  | _ => none

/-- Read a number as a floating-point number. -/
def float? : Json → Option Binary64
  | .num (.int value) => some (.ofInt value)
  | .num (.float value) => some value
  | _ => none

/-- Read an array. -/
def list? {α : Type} (read : Json → Option α) : Json → Option (List α)
  | .arr items => items.mapM read
  | _ => none

/-- Read an object as a table; of two equal keys the later one counts. -/
def table? {κ α : Type} [Ord κ] [Std.TransOrd κ] (key : String → Option κ)
    (read : Json → Option α) : Json → Option (Table κ α)
  | .obj fields =>
      (fields.mapM fun (name, field) => do
        let key ← key name
        let value ← read field
        some (key, value)).map Table.ofList
  | _ => none

/-- Read one of several names, alone or as the only key of an object with a null value. -/
def name? {α : Type} (names : List (String × α)) : Json → Option α
  | .str name => names.lookup name
  | .obj [(name, .null)] => names.lookup name
  | _ => none

/-- Read one of several names inside a tagged value, where an empty object may stand for null. -/
def innerName? {α : Type} (names : List (String × α)) : Json → Option α
  | .obj [(name, .obj [])] => names.lookup name
  | value => name? names value

/-- The field that carries the tag of an alternative. -/
def tagName : String :=
  "type"

/-- Split a readable value into its tag and its other fields. -/
def tagged? (value : Json) : Option (String × Json) :=
  if value.readable then
    match value with
    | .obj fields =>
        match fields.filter fun field => field.1 == tagName with
        | [(_, .str tag)] => some (tag, .obj (fields.filter fun field => field.1 != tagName))
        | _ => none
    | .arr (.str tag :: items) => some (tag, .arr items)
    | _ => none
  else none

end Json
end Workflow
