import Workflow.Binary64
import Workflow.Table

/-!
# JSON values

A value is a tree.  `invalid` marks a part of a text that is well formed and yet stands for no
value: a number beyond the range, a string with half of a surrogate pair, or a container nested too
deeply.  A reader that skips such a part never looks at it, and one that uses it fails (`readable`).
`canonical` is the form in which free values are kept: each key once, keys ascending.
-/

namespace Workflow

/-- A number as it is written: an integer of 64 bits, or else a floating-point number. -/
inductive Json.Number
  /-- An integer. -/
  | int (value : Int)
  /-- Every other number. -/
  | float (value : Binary64)
  deriving DecidableEq

/-- A JSON value. -/
inductive Json
  /-- The null value. -/
  | null
  /-- A truth value. -/
  | bool (value : Bool)
  /-- A number. -/
  | num (value : Json.Number)
  /-- A string. -/
  | str (value : String)
  /-- An array. -/
  | arr (items : List Json)
  /-- An object with its fields as they were written. -/
  | obj (fields : List (String × Json))
  /-- A well-formed part that has no value. -/
  | invalid

namespace Json

mutual

/-- Decide whether two values are the same tree. -/
def decEq : (left right : Json) → Decidable (left = right)
  | .null, .null => isTrue rfl
  | .bool a, .bool b => decidable_of_iff (a = b) (by simp)
  | .num a, .num b => decidable_of_iff (a = b) (by simp)
  | .str a, .str b => decidable_of_iff (a = b) (by simp)
  | .arr a, .arr b =>
      match decEqItems a b with
      | isTrue same => isTrue (by rw [same])
      | isFalse differ => isFalse fun same => differ (Json.arr.inj same)
  | .obj a, .obj b =>
      match decEqFields a b with
      | isTrue same => isTrue (by rw [same])
      | isFalse differ => isFalse fun same => differ (Json.obj.inj same)
  | .invalid, .invalid => isTrue rfl
  | .null, .bool _ | .null, .num _ | .null, .str _ | .null, .arr _ | .null, .obj _
  | .null, .invalid | .bool _, .null | .bool _, .num _ | .bool _, .str _ | .bool _, .arr _
  | .bool _, .obj _ | .bool _, .invalid | .num _, .null | .num _, .bool _ | .num _, .str _
  | .num _, .arr _ | .num _, .obj _ | .num _, .invalid | .str _, .null | .str _, .bool _
  | .str _, .num _ | .str _, .arr _ | .str _, .obj _ | .str _, .invalid | .arr _, .null
  | .arr _, .bool _ | .arr _, .num _ | .arr _, .str _ | .arr _, .obj _ | .arr _, .invalid
  | .obj _, .null | .obj _, .bool _ | .obj _, .num _ | .obj _, .str _ | .obj _, .arr _
  | .obj _, .invalid | .invalid, .null | .invalid, .bool _ | .invalid, .num _
  | .invalid, .str _ | .invalid, .arr _ | .invalid, .obj _ => isFalse nofun

/-- Decide whether two lists of values are the same. -/
def decEqItems : (left right : List Json) → Decidable (left = right)
  | [], [] => isTrue rfl
  | a :: as, b :: bs =>
      match decEq a b, decEqItems as bs with
      | isTrue same, isTrue rest => isTrue (by rw [same, rest])
      | isFalse differ, _ => isFalse fun same => differ (List.cons.inj same).1
      | _, isFalse differ => isFalse fun same => differ (List.cons.inj same).2
  | [], _ :: _ => isFalse nofun
  | _ :: _, [] => isFalse nofun

/-- Decide whether two lists of fields are the same. -/
def decEqFields : (left right : List (String × Json)) → Decidable (left = right)
  | [], [] => isTrue rfl
  | (k, a) :: as, (l, b) :: bs =>
      if key_eq : k = l then
        match decEq a b, decEqFields as bs with
        | isTrue same, isTrue rest => isTrue (by rw [key_eq, same, rest])
        | isFalse differ, _ => isFalse fun same => differ (by simp_all)
        | _, isFalse differ => isFalse fun same => differ (List.cons.inj same).2
      else isFalse fun same => key_eq (by simp_all)
  | [], _ :: _ => isFalse nofun
  | _ :: _, [] => isFalse nofun

end

instance : DecidableEq Json :=
  decEq

mutual

/-- Whether every part of a value has a value. -/
def readable : Json → Bool
  | .arr items => readableItems items
  | .obj fields => readableFields fields
  | .invalid => false
  | .null | .bool _ | .num _ | .str _ => true

/-- Whether every item of a list is readable. -/
def readableItems : List Json → Bool
  | [] => true
  | item :: rest => item.readable && readableItems rest

/-- Whether every field of a list is readable. -/
def readableFields : List (String × Json) → Bool
  | [] => true
  | (_, value) :: rest => value.readable && readableFields rest

end

mutual

/-- The same value with the fields of every object in ascending order, the last of each key. -/
def canonical : Json → Json
  | .arr items => .arr (canonicalItems items)
  | .obj fields => .obj (Table.ofList (canonicalFields fields)).entries
  | .null => .null
  | .bool value => .bool value
  | .num value => .num value
  | .str value => .str value
  | .invalid => .invalid

/-- The canonical forms of a list of values. -/
def canonicalItems : List Json → List Json
  | [] => []
  | item :: rest => item.canonical :: canonicalItems rest

/-- The fields of a list with their values in canonical form. -/
def canonicalFields : List (String × Json) → List (String × Json)
  | [] => []
  | (key, value) :: rest => (key, value.canonical) :: canonicalFields rest

end

/-- The canonical form of a value all of which is readable. -/
def free? (value : Json) : Option Json :=
  if value.readable then some value.canonical else none

/-- The number that stands for a natural number. -/
def ofNat (value : Nat) : Json :=
  .num (.int value)

/-- The array of the values of a list. -/
def ofList {α : Type} (write : α → Json) (items : List α) : Json :=
  .arr (items.map write)

/-- The object of a table whose keys have a text form. -/
def ofTable {κ α : Type} [Ord κ] [ToString κ] (write : α → Json) (table : Table κ α) : Json :=
  .obj (table.entries.map fun entry => (toString entry.1, write entry.2))

end Json
end Workflow
