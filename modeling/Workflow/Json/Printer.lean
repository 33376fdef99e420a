import Workflow.Binary64.Shortest
import Workflow.Json

/-!
# Writing JSON text

Strings escape the quote, the backslash and the controls.  A floating-point number is written with
the fewest digits that read back: positional, with at least one digit after the point, while its
first digit stands between the fifth place after the point and the sixteenth before it, and with an
exponent otherwise.
-/

namespace Workflow
namespace Json

/-- How one character is written in a string. -/
def escapeChar (c : Char) : List Char :=
  if c = '"' then ['\\', '"']
  else if c = '\\' then ['\\', '\\']
  else if c = '\x08' then ['\\', 'b']
  else if c = '\x0c' then ['\\', 'f']
  else if c = '\n' then ['\\', 'n']
  else if c = '\r' then ['\\', 'r']
  else if c = '\t' then ['\\', 't']
  else if c.toNat < 0x20 then ['\\', 'u', '0', '0'] ++ Text.hexDigits 2 c.toNat
  else [c]

/-- A string between quotes. -/
def printString (text : String) : String :=
  String.ofList ('"' :: text.toList.flatMap escapeChar ++ ['"'])

/-- The decimal of a positive floating-point number, positional or with an exponent. -/
def printDecimal (decimal : Binary64.Decimal) : List Char :=
  let digits := Text.decimalText decimal.digits
  let point := digits.length + decimal.exponent
  if 0 ≤ decimal.exponent ∧ point ≤ 16 then
    digits ++ List.replicate decimal.exponent.toNat '0' ++ ['.', '0']
  else if 0 < point ∧ point ≤ 16 then
    digits.take point.toNat ++ '.' :: digits.drop point.toNat
  else if -5 < point ∧ point ≤ 0 then
    ['0', '.'] ++ List.replicate (-point).toNat '0' ++ digits
  else
    let mantissa :=
      match digits with
      | [digit] => [digit]
      | digit :: rest => digit :: '.' :: rest
      | [] => []
    mantissa ++ 'e' :: (toString (point - 1)).toList

/-- A floating-point number; one that is not finite is written as null. -/
def printFloat (value : Binary64) : String :=
  if !value.isFinite then "null"
  else
    let sign := if value.negative then ['-'] else []
    String.ofList (sign ++
      if value.isZero then ['0', '.', '0'] else printDecimal value.shortest)

/-- A number. -/
def Number.print : Number → String
  | .int value => toString value
  | .float value => printFloat value

/-- Texts with a separator between neighbours and brackets around all. -/
def enclose (opening separator closing : String) (texts : List String) : String :=
  opening ++ separator.intercalate texts ++ closing

mutual

/-- A value without white space. -/
def print : Json → String
  | .null | .invalid => "null"
  | .bool true => "true"
  | .bool false => "false"
  | .num value => value.print
  | .str value => printString value
  | .arr items => enclose "[" "," "]" (printItems items)
  | .obj fields => enclose "\x7b" "," "\x7d" (printFields fields)

/-- The items of an array. -/
def printItems : List Json → List String
  | [] => []
  | item :: rest => item.print :: printItems rest

/-- The fields of an object. -/
def printFields : List (String × Json) → List String
  | [] => []
  | (key, value) :: rest => (printString key ++ ":" ++ value.print) :: printFields rest

end

/-- A new line at a depth, indented by two blanks for each level. -/
def newLine (depth : Nat) : String :=
  String.ofList ('\n' :: List.replicate (2 * depth) ' ')

/-- Texts on lines of their own, one level deeper than the brackets around them. -/
def encloseLines (depth : Nat) (opening closing : String) (texts : List String) : String :=
  if texts.isEmpty then opening ++ closing
  else
    enclose (opening ++ newLine (depth + 1)) ("," ++ newLine (depth + 1)) (newLine depth ++ closing)
      texts

mutual

/-- A value with every item and field on a line of its own. -/
def printIndented (depth : Nat) : Json → String
  | .null | .invalid => "null"
  | .bool true => "true"
  | .bool false => "false"
  | .num value => value.print
  | .str value => printString value
  | .arr items => encloseLines depth "[" "]" (indentedItems (depth + 1) items)
  | .obj fields => encloseLines depth "\x7b" "\x7d" (indentedFields (depth + 1) fields)

/-- The items of an array at a depth. -/
def indentedItems (depth : Nat) : List Json → List String
  | [] => []
  | item :: rest => item.printIndented depth :: indentedItems depth rest

/-- The fields of an object at a depth. -/
def indentedFields (depth : Nat) : List (String × Json) → List String
  | [] => []
  | (key, value) :: rest =>
      (printString key ++ ": " ++ value.printIndented depth) :: indentedFields depth rest

end

end Json
end Workflow
