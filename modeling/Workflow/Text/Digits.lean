/-!
# Numerals

Decimal and hexadecimal digits of ASCII, and the numbers that rows of them denote.
-/

namespace Workflow
namespace Text

/-- The value of a decimal digit. -/
def decimalDigit? (c : Char) : Option Nat :=
  if '0' ≤ c ∧ c ≤ '9' then some (c.toNat - '0'.toNat) else none

/-- The value of a hexadecimal digit of either case. -/
def hexDigit? (c : Char) : Option Nat :=
  if '0' ≤ c ∧ c ≤ '9' then some (c.toNat - '0'.toNat)
  else if 'a' ≤ c ∧ c ≤ 'f' then some (c.toNat - 'a'.toNat + 10)
  else if 'A' ≤ c ∧ c ≤ 'F' then some (c.toNat - 'A'.toNat + 10)
  else none

/-- Whether a character is a decimal digit. -/
def isDecimalDigit (c : Char) : Bool :=
  (decimalDigit? c).isSome

/-- The lower-case hexadecimal digit of a value below sixteen. -/
def hexDigit (value : Nat) : Char :=
  if value < 10 then Char.ofNat ('0'.toNat + value) else Char.ofNat ('a'.toNat + (value - 10))

/-- The number that digits denote in a base, most significant digit first. -/
def number (base : Nat) (digits : List Nat) : Nat :=
  digits.foldl (fun value digit => value * base + digit) 0

/-- The number that a row of hexadecimal digits denotes. -/
def hexNumber? (text : List Char) : Option Nat :=
  (text.mapM hexDigit?).map (number 16)

/-- The number that a row of decimal digits denotes; none for an empty row. -/
def decimalNumber? (text : List Char) : Option Nat :=
  if text.isEmpty then none else (text.mapM decimalDigit?).map (number 10)

/-- The last `width` hexadecimal digits of a number, most significant first. -/
def hexDigits : (width : Nat) → Nat → List Char
  | 0, _ => []
  | width + 1, value => hexDigit (value >>> (4 * width) % 16) :: hexDigits width value

/-- A number in lower-case hexadecimal digits without leading zeros. -/
def hexText (value : Nat) : List Char :=
  Nat.toDigits 16 value

/-- A number in decimal digits without leading zeros. -/
def decimalText (value : Nat) : List Char :=
  Nat.toDigits 10 value

/-- A number in decimal digits, with zeros in front up to a width. -/
def paddedText (width value : Nat) : List Char :=
  let digits := decimalText value
  List.replicate (width - digits.length) '0' ++ digits

end Text
end Workflow
