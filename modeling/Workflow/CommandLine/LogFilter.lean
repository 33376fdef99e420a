import Workflow.Text.Alphanumeric
import Workflow.Text.Blank
import Workflow.Text.Digits

/-!
# Filters for log messages

A filter is a list of directives with commas between them.  A directive names a level, or a target
or a span with a level after an equals sign; a span stands in brackets and may have a field in
braces.  Empty directives are ignored.
-/

namespace Workflow
namespace LogFilter

/-- The names of the levels. -/
def levelNames : List String :=
  ["error", "warn", "info", "debug", "trace", "off"]

/-- Whether a text is a number from zero to five, perhaps with a plus sign. -/
def isLevelNumber (text : List Char) : Bool :=
  let digits :=
    match text with
    | '+' :: rest => rest
    | _ => text
  (Text.decimalNumber? digits).any (· ≤ 5)

/-- Whether a text is a level, in either case or as a number, or nothing at all. -/
def isLevel (text : List Char) : Bool :=
  text.isEmpty || levelNames.contains (String.ofList (text.map Char.toLower)) || isLevelNumber text

/-- Whether a directive may end with an equals sign and a level, or without them. -/
def isLevelPart : List Char → Bool
  | [] => true
  | '=' :: level => isLevel level
  | _ => false

/-- Whether a text goes on from inside the braces of a span. -/
def isFieldPart (text : List Char) : Bool :=
  match text.takeWhile (· != '\x7d'), text.dropWhile (· != '\x7d') with
  | _ :: _, '\x7d' :: ']' :: rest => isLevelPart rest
  | _, _ => false

/-- Whether a text goes on from inside the brackets of a span. -/
def isSpanPart (text : List Char) : Bool :=
  match text.dropWhile fun c => c != ']' && c != '\x7b' with
  | ']' :: rest => isLevelPart rest
  | '\x7b' :: rest => isFieldPart rest
  | _ => false

/-- Whether a level or a target may begin with a character. -/
def isNameStart (c : Char) : Bool :=
  c == '-' || c == ':' || c == '_' || Text.isAlphanumeric c

/-- Whether a text without white space around it is a directive. -/
def isTrimmedDirective : List Char → Bool
  | [] => false
  | '[' :: rest => isSpanPart rest
  | first :: rest =>
      isNameStart first &&
        match rest.dropWhile fun c => c != '=' && c != '[' with
        | '[' :: rest => isSpanPart rest
        | rest => isLevelPart rest

/-- Whether a text is a directive; white space around it is allowed only without a level. -/
def isDirective (text : List Char) : Bool :=
  let trimmed := Text.trim text
  isTrimmedDirective trimmed && (trimmed == text || !trimmed.contains '=')

/-- Whether a text is a filter. -/
def isValid (text : String) : Bool :=
  ((text.toList.splitOn ',').filter (!·.isEmpty)).all isDirective

/-- Whether a text says nothing. -/
def isBlank (text : String) : Bool :=
  text.toList.all Text.isBlank

end LogFilter
end Workflow
