/-!
# UTF-8

Bytes are read one at a time.  Between two bytes the reader either stands between characters or has
a character open, and then knows how many more bytes it owes and which range the next one must lie
in.  A sequence that breaks off inside a character, or goes on with a byte outside the range, counts
as one unreadable part up to that point; the offending byte is read again as a first byte.
-/

namespace Workflow

/-- The content of a blob or a file. -/
abbrev Bytes :=
  List UInt8

namespace Utf8

/-- The bytes of a text. -/
def encode (text : String) : Bytes :=
  text.toList.flatMap String.utf8EncodeChar

/-- A character of which some bytes are still owed. -/
structure Opened where
  /-- The value of the bytes read so far. -/
  value : Nat
  /-- How many bytes follow the next one. -/
  later : Nat
  /-- The smallest admissible next byte. -/
  low : UInt8
  /-- The greatest admissible next byte. -/
  high : UInt8
  deriving DecidableEq

/-- What a byte means where a character may begin. -/
inductive Lead
  /-- A character of one byte. -/
  | whole (c : Char)
  /-- The first byte of a longer character. -/
  | opens (character : Opened)
  /-- No character begins with this byte. -/
  | stray

/-- Read a first byte. -/
def lead (byte : UInt8) : Lead :=
  let value := byte.toNat
  if value < 0x80 then .whole (Char.ofNat value)
  else if value < 0xC2 then .stray
  else if value < 0xE0 then .opens ⟨value - 0xC0, 0, 0x80, 0xBF⟩
  else if value = 0xE0 then .opens ⟨0, 1, 0xA0, 0xBF⟩
  else if value = 0xED then .opens ⟨0xD, 1, 0x80, 0x9F⟩
  else if value < 0xF0 then .opens ⟨value - 0xE0, 1, 0x80, 0xBF⟩
  else if value = 0xF0 then .opens ⟨0, 2, 0x90, 0xBF⟩
  else if value < 0xF4 then .opens ⟨value - 0xF0, 2, 0x80, 0xBF⟩
  else if value = 0xF4 then .opens ⟨4, 2, 0x80, 0x8F⟩
  else .stray

/-- The value of an opened character with one more byte. -/
def Opened.extend (opened : Opened) (byte : UInt8) : Nat :=
  opened.value * 64 + (byte.toNat - 0x80)

/-- The characters of a byte sequence in order, with `none` for each unreadable part. -/
def units : Option Opened → Bytes → List (Option Char)
  | none, [] => []
  | some _, [] => [none]
  | none, byte :: rest =>
      match lead byte with
      | .whole c => some c :: units none rest
      | .opens opened => units (some opened) rest
      | .stray => none :: units none rest
  | some opened, byte :: rest =>
      if opened.low ≤ byte ∧ byte ≤ opened.high then
        match opened.later with
        | 0 => some (Char.ofNat (opened.extend byte)) :: units none rest
        | later + 1 => units (some ⟨opened.extend byte, later, 0x80, 0xBF⟩) rest
      else
        none ::
          match lead byte with
          | .whole c => some c :: units none rest
          | .opens opened => units (some opened) rest
          | .stray => none :: units none rest

/-- The text of a byte sequence, if every byte belongs to a character. -/
def decode? (bytes : Bytes) : Option String :=
  ((units none bytes).mapM id).map String.ofList

/-- What stands for an unreadable part. -/
def replacement : Char :=
  '\uFFFD'

/-- The text of a byte sequence with each unreadable part replaced by one character. -/
def decodeLossy (bytes : Bytes) : String :=
  String.ofList ((units none bytes).map (·.getD replacement))

end Utf8
end Workflow
