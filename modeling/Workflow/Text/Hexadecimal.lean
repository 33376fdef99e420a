import Workflow.Text.Digits
import Workflow.Text.Utf8

/-!
# Bytes in hexadecimal

A byte is written as two digits, the higher half first.
-/

namespace Workflow
namespace Hexadecimal

/-- Write bytes in lower-case digits. -/
def encode (bytes : Bytes) : String :=
  String.ofList (bytes.flatMap fun byte => Text.hexDigits 2 byte.toNat)

/-- Read a row of bytes; there must be an even number of digits. -/
def bytes? : List Char → Option Bytes
  | [] => some []
  | high :: low :: rest => do
      let high ← Text.hexDigit? high
      let low ← Text.hexDigit? low
      return .ofNat (high * 16 + low) :: (← bytes? rest)
  | [_] => none

/-- Read bytes in digits of either case. -/
def decode? (text : String) : Option Bytes :=
  bytes? text.toList

end Hexadecimal
end Workflow
