import Workflow.Text.Blank
import Workflow.Timestamp

/-!
# Reading moments

A moment is written as a date, a mark between date and time, a time of day and an offset from
universal time.  White space may stand before each number and each mark, numbers may lack leading
zeros, and the offset may be a letter, a name, or hours and minutes with or without a colon.
-/

namespace Workflow
namespace Timestamp

/-- A reader of the front of a text, which returns what it read and the rest. -/
abbrev Front (α : Type) :=
  List Char → Option (α × List Char)

/-- Read digits, at least one and at most `width`. -/
def digits (width : Nat) : Front Nat := fun text =>
  let row := (text.take width).takeWhile Text.isDecimalDigit
  (Text.decimalNumber? row).map fun value => (value, text.drop row.length)

/-- Read a number of at most two digits after white space. -/
def field : Front Nat := fun text =>
  digits 2 (Text.trimFront text)

/-- Read a year after white space: at most four digits, or any number of digits after a sign. -/
def year : Front Int := fun text =>
  match Text.trimFront text with
  | '-' :: rest => (digits rest.length rest).map fun (value, rest) => (-(value : Int), rest)
  | '+' :: rest => (digits rest.length rest).map fun (value, rest) => ((value : Int), rest)
  | rest => (digits 4 rest).map fun (value, rest) => ((value : Int), rest)

/-- Skip white space and one mark. -/
def mark (c : Char) : Front Unit := fun text =>
  match Text.trimFront text with
  | first :: rest => if first = c then some ((), rest) else none
  | [] => none

/-- Read a fraction of a second, if a point begins one; digits after the ninth do not count. -/
def fraction : Front Nat := fun text =>
  match text with
  | '.' :: rest => do
      let row := rest.takeWhile Text.isDecimalDigit
      let counted := row.take 9
      let value ← Text.decimalNumber? counted
      some (value * Nat.pow 10 (9 - counted.length), rest.drop row.length)
  | _ => some (0, text)

/-- Read the letter or blank between date and time. -/
def separator : Front Unit := fun text =>
  match text with
  | first :: rest => if first = 'T' ∨ first = 't' ∨ first = ' ' then some ((), rest) else none
  | [] => none

/-- Read exactly two digits. -/
def twoDigits : Front Nat := fun text => do
  let row := text.take 2
  if row.length = 2 then
    let value ← Text.decimalNumber? row
    some (value, text.drop 2)
  else none

/-- Whether a character may stand between hours and minutes of an offset. -/
def isOffsetSeparator (c : Char) : Bool :=
  c == ':' || Text.isBlank c

/-- Read hours and minutes of an offset after its sign, in seconds. -/
def offsetAmount : Front Nat := fun text => do
  let (hours, text) ← twoDigits text
  let (minutes, text) ← twoDigits (text.dropWhile isOffsetSeparator)
  if minutes < 60 then some (hours * 3600 + minutes * 60, text) else none

/-- Read an offset from universal time in seconds. -/
def offset : Front Int := fun text =>
  if (text.take 3).map Char.toUpper = ['U', 'T', 'C'] then some (0, text.drop 3)
  else
    match text with
    | 'Z' :: rest | 'z' :: rest => some (0, rest)
    | '+' :: rest => (offsetAmount rest).map fun (value, rest) => ((value : Int), rest)
    | '-' :: rest | '−' :: rest =>
        (offsetAmount rest).map fun (value, rest) => (-(value : Int), rest)
    | _ => none

/-- The moment of checked fields; second 60 is a leap second. -/
def ofParts? (date : Date) (hour minute second nano : Nat) (offset : Int) : Option Timestamp :=
  if hour < 24 ∧ minute < 60 ∧ second ≤ 60 ∧ offset.natAbs < daySeconds then
    let leap := if second = 60 then 1 else 0
    ofLocal? date (hour * 3600 + minute * 60 + (second - leap)) (nano + leap * secondNanos) offset
  else none

/-- Read a moment. -/
def ofString? (text : String) : Option Timestamp := do
  let (year, text) ← year text.toList
  let ((), text) ← mark '-' text
  let (month, text) ← field text
  let ((), text) ← mark '-' text
  let (day, text) ← field text
  let ((), text) ← separator text
  let (hour, text) ← field text
  let ((), text) ← mark ':' text
  let (minute, text) ← field text
  let ((), text) ← mark ':' text
  let (second, text) ← field text
  let (nano, text) ← fraction text
  let (offset, text) ← offset (Text.trimFront text)
  if (Text.trimFront text).isEmpty then
    let date ← Date.ofFields? year month day
    ofParts? date hour minute second nano offset
  else none

end Timestamp
end Workflow
