import Workflow.Json
import Workflow.Text.Digits

/-!
# Numbers in JSON text

A numeral without point and exponent whose value fits into 64 bits is an integer.  Every other
numeral is a floating-point number: its leading digits, as many as fit into 64 bits, form an integer
that is rounded and then multiplied or divided by a rounded power of ten.  A result beyond the range
is no number.
-/

namespace Workflow
namespace Json

/-- The parts of a numeral. -/
structure Numeral where
  /-- Whether a minus sign stands in front. -/
  negative : Bool
  /-- The digits before the point. -/
  whole : List Nat
  /-- The digits after the point; none without a point. -/
  fraction : List Nat
  /-- Whether the exponent is negative, and its digits. -/
  exponent : Option (Bool × List Nat)

namespace Numeral

/-- Split decimal digits off the front of a text. -/
def takeDigits (text : List Char) : List Nat × List Char :=
  ((text.takeWhile Text.isDecimalDigit).filterMap Text.decimalDigit?,
    text.dropWhile Text.isDecimalDigit)

/-- Split off the digits before the point, which have no leading zero. -/
def takeWhole? (text : List Char) : Option (List Nat × List Char) :=
  match takeDigits text with
  | ([], _) => none
  | (0 :: _ :: _, _) => none
  | parts => some parts

/-- Split off a point with the digits after it, at least one. -/
def takeFraction? : List Char → Option (List Nat × List Char)
  | '.' :: rest =>
      match takeDigits rest with
      | ([], _) => none
      | parts => some parts
  | text => some ([], text)

/-- Read an exponent with at least one digit, or nothing. -/
def exponentPart? : List Char → Option (Option (Bool × List Nat))
  | [] => some none
  | mark :: rest =>
      if mark = 'e' ∨ mark = 'E' then
        let (negative, rest) :=
          match rest with
          | '+' :: rest => (false, rest)
          | '-' :: rest => (true, rest)
          | _ => (false, rest)
        match takeDigits rest with
        | ([], _) => none
        | (digits, []) => some (some (negative, digits))
        | _ => none
      else none

/-- Read a numeral by the grammar. -/
def ofText? (text : List Char) : Option Numeral := do
  let (negative, text) :=
    match text with
    | '-' :: rest => (true, rest)
    | _ => (false, text)
  let (whole, text) ← takeWhole? text
  let (fraction, text) ← takeFraction? text
  let exponent ← exponentPart? text
  some ⟨negative, whole, fraction, exponent⟩

/-- The greatest integer that digits are gathered into. -/
def limit : Nat :=
  Nat.pow 2 64 - 1

/-- Append digits to an integer as long as it stays within the limit; the others are left over. -/
def gather : Nat → List Nat → Nat × List Nat
  | value, [] => (value, [])
  | value, digit :: rest =>
      if value * 10 + digit ≤ limit then gather (value * 10 + digit) rest
      else (value, digit :: rest)

/-- A power of ten, rounded. -/
def powerOfTen (exponent : Nat) : Binary64 :=
  .ofNat (Nat.pow 10 exponent)

/-- Multiply or divide by powers of ten of at most 308; none if the result is too large. -/
def scale? (value : Binary64) (exponent : Int) : Option Binary64 :=
  if exponent.natAbs ≤ 308 then
    if 0 ≤ exponent then
      let product := value.mul (powerOfTen exponent.natAbs)
      if product.isFinite then some product else none
    else some (value.div (powerOfTen exponent.natAbs))
  else if value.isZero then some value
  else if 0 ≤ exponent then none
  else scale? (value.div (powerOfTen 308)) (exponent + 308)
termination_by exponent.natAbs

/-- The greatest exponent that is taken as written. -/
def exponentLimit : Nat :=
  Nat.pow 2 31 - 1

/-- The floating-point number of a significand and a written exponent; none if it is too large. -/
def scaleBy? (significand : Nat) (exponent : Int) : Option (Bool × List Nat) → Option Binary64
  | none => scale? (.ofNat significand) exponent
  | some (negative, digits) =>
      let written := Text.number 10 digits
      if exponentLimit < written then
        if significand ≠ 0 ∧ !negative then none else some (.zero false)
      else
        scale? (.ofNat significand) (if negative then exponent - written else exponent + written)

/-- The number that a numeral stands for; none if it is too large. -/
def value? (numeral : Numeral) : Option Number :=
  let (whole, dropped) := gather 0 numeral.whole
  if dropped.isEmpty && numeral.fraction.isEmpty && numeral.exponent.isNone &&
      (!numeral.negative || (0 < whole && whole ≤ Nat.pow 2 63)) then
    some (.int (if numeral.negative then -(whole : Int) else whole))
  else
    let (significand, unread) := gather whole numeral.fraction
    let exponent : Int := dropped.length - ((numeral.fraction.length - unread.length : Nat) : Int)
    (scaleBy? significand exponent numeral.exponent).map fun value =>
      .float (if numeral.negative then value.neg else value)

end Numeral
end Json
end Workflow
