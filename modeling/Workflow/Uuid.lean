import Workflow.Text.Digits

/-!
# Universally unique identifiers

An identifier is a number of 128 bits, ordered by value.  It is written as 32 hexadecimal digits in
groups of 8, 4, 4, 4 and 12; `ofString?` also reads the digits without hyphens, the grouped form in
braces, and the grouped form as a URN.
-/

namespace Workflow

/-- An identifier of 128 bits. -/
structure Uuid where
  /-- The identifier as a number, first byte most significant. -/
  value : Fin (1 <<< 128)
  deriving DecidableEq

namespace Uuid

instance : Ord Uuid :=
  ⟨fun left right => compare left.value.val right.value.val⟩

instance : Std.TransOrd Uuid where
  eq_swap {left right} := Std.OrientedOrd.eq_swap (a := left.value.val) (b := right.value.val)
  isLE_trans {left middle right} := Std.TransOrd.isLE_trans (a := left.value.val)
    (b := middle.value.val) (c := right.value.val)

theorem eq_of_val_eq {left right : Uuid} (val_eq : left.value.val = right.value.val) :
    left = right := by
  cases left
  cases right
  simp_all [Fin.ext_iff]

instance : Std.LawfulEqOrd Uuid where
  compare_self {id} := Std.ReflOrd.compare_self (a := id.value.val)
  eq_of_compare compare_eq := eq_of_val_eq (Nat.compare_eq_eq.1 compare_eq)

/-- The identifier with a given value, taken modulo the number of identifiers. -/
def ofNat (value : Nat) : Uuid :=
  ⟨value % 1 <<< 128, Nat.mod_lt _ (by decide)⟩

/-- The identifier whose bits are all zero. -/
def nil : Uuid :=
  ofNat 0

instance : Inhabited Uuid :=
  ⟨nil⟩

/-- The lengths of the hyphenated groups. -/
def groupLengths : List Nat :=
  [8, 4, 4, 4, 12]

/-- Cut digits into groups and put a hyphen between neighbours. -/
def hyphenate : List Nat → List Char → List Char
  | [], _ => []
  | [length], digits => digits.take length
  | length :: lengths, digits => digits.take length ++ '-' :: hyphenate lengths (digits.drop length)

/-- Join groups of the given lengths that hyphens separate. -/
def dehyphenate? : List Nat → List Char → Option (List Char)
  | [], text => if text.isEmpty then some [] else none
  | [length], text => if text.length = length then some text else none
  | length :: lengths, text =>
      match text.drop length with
      | '-' :: rest => (dehyphenate? lengths rest).map (text.take length ++ ·)
      | _ => none

/-- The grouped lower-case form. -/
def toString (id : Uuid) : String :=
  String.ofList (hyphenate groupLengths (Text.hexDigits 32 id.value.val))

instance : ToString Uuid :=
  ⟨toString⟩

/-- Read 32 hexadecimal digits. -/
def ofDigits? (digits : List Char) : Option Uuid :=
  if digits.length = 32 then (Text.hexNumber? digits).map ofNat else none

/-- Read the grouped form. -/
def ofGroups? (text : List Char) : Option Uuid :=
  dehyphenate? groupLengths text >>= ofDigits?

/-- What introduces an identifier written as a URN, in either case. -/
def urnPrefix : List Char :=
  ['u', 'r', 'n', ':', 'u', 'u', 'i', 'd', ':']

/-- Read any of the written forms. -/
def ofString? (text : String) : Option Uuid :=
  let chars := text.toList
  if chars.length = 32 then ofDigits? chars
  else if chars.length = 38 ∧ chars.head? = some '\x7b' ∧ chars.getLast? = some '\x7d' then
    ofGroups? (chars.drop 1).dropLast
  else if (chars.take 9).map Char.toLower = urnPrefix then ofGroups? (chars.drop 9)
  else ofGroups? chars

/-- The version that an identifier carries in its seventh byte. -/
def version (id : Uuid) : Nat :=
  id.value.val / Nat.pow 2 76 % 16

/-- The version-4 identifier around 122 random bits. -/
def random (bits : Nat) : Uuid :=
  ofNat
    (bits / Nat.pow 2 74 % Nat.pow 2 48 * Nat.pow 2 80 + 4 * Nat.pow 2 76 +
      bits / Nat.pow 2 62 % Nat.pow 2 12 * Nat.pow 2 64 + 2 * Nat.pow 2 62 + bits % Nat.pow 2 62)

end Uuid
end Workflow
