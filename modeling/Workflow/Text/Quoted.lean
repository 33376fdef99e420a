import Workflow.Text.Digits
import Workflow.Text.Printable

/-!
# Text quoted for a message

A quoted text stands between double quotes.  Inside it a quote, a backslash and the usual controls
are written with a backslash, and every other character that would not show on its own is written
as its code point.
-/

namespace Workflow
namespace Text

/-- How one character is written between the quotes. -/
def quoteChar (c : Char) : List Char :=
  if c = '\x00' then ['\\', '0']
  else if c = '\t' then ['\\', 't']
  else if c = '\r' then ['\\', 'r']
  else if c = '\n' then ['\\', 'n']
  else if c = '\\' then ['\\', '\\']
  else if c = '"' then ['\\', '"']
  else if isCombining c || !isPrintable c then ['\\', 'u', '\x7b'] ++ hexText c.toNat ++ ['\x7d']
  else [c]

/-- A text between double quotes. -/
def quote (text : String) : String :=
  String.ofList ('"' :: text.toList.flatMap quoteChar ++ ['"'])

end Text
end Workflow
