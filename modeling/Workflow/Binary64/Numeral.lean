import Workflow.Binary64
import Workflow.Text.Digits

/-!
# Numerals for floating-point numbers

A numeral is an optional sign followed by the name of an infinity, by the name of what is no number,
or by decimal digits with an optional point and an optional exponent.  At least one digit stands
before or after the point.  The number is the nearest one to the decimal.
-/

namespace Workflow
namespace Binary64

/-- Take a sign off the front of a text. -/
def takeSign : List Char → Bool × List Char
  | '-' :: rest => (true, rest)
  | '+' :: rest => (false, rest)
  | text => (false, text)

/-- Read what may follow the digits of a numeral: nothing, or an exponent. -/
def exponentPart? : List Char → Option Int
  | [] => some 0
  | mark :: rest =>
      if mark = 'e' ∨ mark = 'E' then
        let (negative, digits) := takeSign rest
        (Text.decimalNumber? digits).map fun value => if negative then -(value : Int) else value
      else none

/-- Read decimal digits with an optional point and an optional exponent. -/
def ofDecimalText? (negative : Bool) (text : List Char) : Option Binary64 :=
  let whole := text.takeWhile Text.isDecimalDigit
  let (fraction, rest) :=
    match text.dropWhile Text.isDecimalDigit with
    | '.' :: rest => (rest.takeWhile Text.isDecimalDigit, rest.dropWhile Text.isDecimalDigit)
    | rest => ([], rest)
  do
    let digits ← Text.decimalNumber? (whole ++ fraction)
    let exponent ← exponentPart? rest
    some (ofDecimal negative digits (exponent - fraction.length))

/-- Read a numeral. -/
def ofText? (text : List Char) : Option Binary64 :=
  let (negative, rest) := takeSign text
  let name := String.ofList (rest.map Char.toLower)
  if name = "inf" ∨ name = "infinity" then some (infinity negative)
  else if name = "nan" then some nan
  else ofDecimalText? negative rest

end Binary64
end Workflow
