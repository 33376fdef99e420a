import Workflow.Json.Numeral
import Workflow.Text.Utf8

/-!
# Reading JSON text

The reader takes one byte at a time.  A scanner turns bytes into tokens and a stack of open
containers turns tokens into a value, so that the depth of nesting is the height of the stack.
Parts that are well formed and have no value are read as `Json.invalid`.
-/

namespace Workflow
namespace Json

/-! ### Strings -/

/-- A piece of a string between its quotes. -/
inductive Piece
  /-- A byte that stands for itself. -/
  | byte (value : UInt8)
  /-- A UTF-16 code unit written as an escape. -/
  | unit (value : Nat)

/-- Whether a code unit is the first half of a surrogate pair. -/
def isHighSurrogate (unit : Nat) : Bool :=
  0xD800 ≤ unit && unit ≤ 0xDBFF

/-- Whether a code unit is the second half of a surrogate pair. -/
def isLowSurrogate (unit : Nat) : Bool :=
  0xDC00 ≤ unit && unit ≤ 0xDFFF

/-- The bytes of pieces; none if half of a surrogate pair stands alone. -/
def pieceBytes? : List Piece → Option Bytes
  | [] => some []
  | .byte value :: rest => (pieceBytes? rest).map (value :: ·)
  | .unit high :: .unit low :: rest =>
      if isHighSurrogate high then
        if isLowSurrogate low then
          let c := Char.ofNat (0x10000 + (high - 0xD800) * 0x400 + (low - 0xDC00))
          (pieceBytes? rest).map (String.utf8EncodeChar c ++ ·)
        else none
      else if isLowSurrogate high then none
      else (pieceBytes? (.unit low :: rest)).map (String.utf8EncodeChar (Char.ofNat high) ++ ·)
  | .unit value :: rest =>
      if isHighSurrogate value || isLowSurrogate value then none
      else (pieceBytes? rest).map (String.utf8EncodeChar (Char.ofNat value) ++ ·)

/-- The text of pieces, if they have one. -/
def pieceText? (pieces : List Piece) : Option String :=
  pieceBytes? pieces >>= Utf8.decode?

/-! ### Containers -/

/-- A token of JSON text. -/
inductive Token
  /-- An opening bracket. -/
  | openArray
  /-- A closing bracket. -/
  | closeArray
  /-- An opening brace. -/
  | openObject
  /-- A closing brace. -/
  | closeObject
  /-- A colon. -/
  | colon
  /-- A comma. -/
  | comma
  /-- A literal or a number. -/
  | scalar (value : Json)
  /-- A string, if it has a text. -/
  | text (value : Option String)

/-- A container that is not closed yet, with the latest member in front. -/
inductive Container
  /-- An array. -/
  | array (items : List Json)
  /-- An object, and the key whose value comes next. -/
  | object (fields : List (Option String × Json)) (key : Option String)

/-- What may come next. -/
inductive Stage
  /-- A value. -/
  | value
  /-- A value or the end of the array. -/
  | firstItem
  /-- A key. -/
  | key
  /-- A key or the end of the object. -/
  | firstKey
  /-- The colon after a key. -/
  | colon
  /-- A comma or the end of the container. -/
  | separator
  /-- Nothing but white space. -/
  | finished (value : Json)

/-- The containers around the current position, innermost first, and what may come next. -/
structure Parser where
  /-- The open containers. -/
  containers : List Container
  /-- What may come next. -/
  stage : Stage

/-- How many containers may stand around one another. -/
def depthLimit : Nat :=
  127

/-- The value of a container; a key without text makes an object invalid. -/
def Container.value : Container → Json
  | .array items => .arr items.reverse
  | .object fields _ =>
      match fields.reverse.mapM fun field => field.1.map (·, field.2) with
      | some fields => .obj fields
      | none => .invalid

/-- Put a complete value where it belongs. -/
def Parser.place (containers : List Container) (value : Json) : Parser :=
  match containers with
  | [] => ⟨[], .finished value⟩
  | .array items :: outer => ⟨.array (value :: items) :: outer, .separator⟩
  | .object fields key :: outer => ⟨.object ((key, value) :: fields) none :: outer, .separator⟩

/-- Close the innermost container, whose value is invalid beyond the depth limit. -/
def Parser.close (container : Container) (outer : List Container) : Parser :=
  Parser.place outer (if outer.length < depthLimit then container.value else .invalid)

/-- Begin a value with a token. -/
def Parser.begin (containers : List Container) : Token → Option Parser
  | .scalar value => some (Parser.place containers value)
  | .text (some value) => some (Parser.place containers (.str value))
  | .text none => some (Parser.place containers .invalid)
  | .openArray => some ⟨.array [] :: containers, .firstItem⟩
  | .openObject => some ⟨.object [] none :: containers, .firstKey⟩
  | _ => none

/-- Take one token. -/
def Parser.step (parser : Parser) (token : Token) : Option Parser :=
  match parser.stage, parser.containers, token with
  | .value, containers, token => Parser.begin containers token
  | .firstItem, container :: outer, .closeArray => some (Parser.close container outer)
  | .firstItem, containers, token => Parser.begin containers token
  | .firstKey, container :: outer, .closeObject => some (Parser.close container outer)
  | .firstKey, .object fields _ :: outer, .text key => some ⟨.object fields key :: outer, .colon⟩
  | .key, .object fields _ :: outer, .text key => some ⟨.object fields key :: outer, .colon⟩
  | .colon, containers, .colon => some ⟨containers, .value⟩
  | .separator, .array items :: outer, .comma => some ⟨.array items :: outer, .value⟩
  | .separator, .array items :: outer, .closeArray => some (Parser.close (.array items) outer)
  | .separator, .object fields key :: outer, .comma => some ⟨.object fields key :: outer, .key⟩
  | .separator, .object fields key :: outer, .closeObject =>
      some (Parser.close (.object fields key) outer)
  | _, _, _ => none

/-! ### Bytes -/

/-- Where the scanner stands. -/
inductive Scanner
  /-- Between two tokens. -/
  | between
  /-- Inside a numeral, the latest character in front. -/
  | numeral (read : List Char)
  /-- Inside a literal name, the latest character in front. -/
  | word (read : List Char)
  /-- Inside a string, the latest piece in front. -/
  | string (pieces : List Piece)
  /-- After the backslash of an escape. -/
  | escape (pieces : List Piece)
  /-- Inside the four hexadecimal digits of an escape. -/
  | unicode (pieces : List Piece) (missing : Nat) (value : Nat)

/-- Whether a character may occur in a numeral. -/
def isNumeralChar (c : Char) : Bool :=
  Text.isDecimalDigit c || c == '-' || c == '+' || c == '.' || c == 'e' || c == 'E'

/-- Whether a character may occur in a literal name. -/
def isWordChar (c : Char) : Bool :=
  'a' ≤ c && c ≤ 'z'

/-- The value of a numeral; none if it breaks the grammar. -/
def numeral? (text : List Char) : Option Json :=
  (Numeral.ofText? text).map fun numeral =>
    match numeral.value? with
    | some number => .num number
    | none => .invalid

/-- The value of a literal name. -/
def word? (text : List Char) : Option Json :=
  if text = ['n', 'u', 'l', 'l'] then some .null
  else if text = ['t', 'r', 'u', 'e'] then some (.bool true)
  else if text = ['f', 'a', 'l', 's', 'e'] then some (.bool false)
  else none

/-- What the reader knows after some bytes. -/
structure Reader where
  /-- Where the scanner stands. -/
  scanner : Scanner
  /-- The containers around it. -/
  parser : Parser

/-- The reader before the first byte. -/
def Reader.start : Reader :=
  ⟨.between, ⟨[], .value⟩⟩

/-- Take a byte between two tokens. -/
def Reader.next (parser : Parser) (byte : UInt8) : Option Reader :=
  let token (token : Token) : Option Reader := (parser.step token).map (⟨.between, ·⟩)
  let c := Char.ofNat byte.toNat
  if c = ' ' ∨ c = '\n' ∨ c = '\t' ∨ c = '\r' then some ⟨.between, parser⟩
  else if c = '[' then token .openArray
  else if c = ']' then token .closeArray
  else if c = '\x7b' then token .openObject
  else if c = '\x7d' then token .closeObject
  else if c = ':' then token .colon
  else if c = ',' then token .comma
  else if c = '"' then some ⟨.string [], parser⟩
  else if c = '-' ∨ Text.isDecimalDigit c then some ⟨.numeral [c], parser⟩
  else if isWordChar c then some ⟨.word [c], parser⟩
  else none

/-- The byte that an escape of one letter stands for. -/
def simpleEscape? (c : Char) : Option UInt8 :=
  if c = '"' ∨ c = '\\' ∨ c = '/' then some c.toUInt8
  else if c = 'b' then some 0x08
  else if c = 'f' then some 0x0C
  else if c = 'n' then some 0x0A
  else if c = 'r' then some 0x0D
  else if c = 't' then some 0x09
  else none

/-- Take one byte. -/
def Reader.step (reader : Reader) (byte : UInt8) : Option Reader :=
  let c := Char.ofNat byte.toNat
  match reader.scanner with
  | .between => Reader.next reader.parser byte
  | .numeral read =>
      if isNumeralChar c then some ⟨.numeral (c :: read), reader.parser⟩
      else do
        let value ← numeral? read.reverse
        let parser ← reader.parser.step (.scalar value)
        Reader.next parser byte
  | .word read =>
      if isWordChar c then some ⟨.word (c :: read), reader.parser⟩
      else do
        let value ← word? read.reverse
        let parser ← reader.parser.step (.scalar value)
        Reader.next parser byte
  | .string pieces =>
      if c = '"' then
        (reader.parser.step (.text (pieceText? pieces.reverse))).map (⟨.between, ·⟩)
      else if c = '\\' then some ⟨.escape pieces, reader.parser⟩
      else if byte < 0x20 then none
      else some ⟨.string (.byte byte :: pieces), reader.parser⟩
  | .escape pieces =>
      if c = 'u' then some ⟨.unicode pieces 4 0, reader.parser⟩
      else (simpleEscape? c).map fun value => ⟨.string (.byte value :: pieces), reader.parser⟩
  | .unicode pieces missing value =>
      (Text.hexDigit? c).map fun digit =>
        let value := value * 16 + digit
        if missing ≤ 1 then ⟨.string (.unit value :: pieces), reader.parser⟩
        else ⟨.unicode pieces (missing - 1) value, reader.parser⟩

/-- The value read, if the text is complete. -/
def Reader.finish (reader : Reader) : Option Json := do
  let parser ←
    match reader.scanner with
    | .between => some reader.parser
    | .numeral read => (numeral? read.reverse).bind fun value => reader.parser.step (.scalar value)
    | .word read => (word? read.reverse).bind fun value => reader.parser.step (.scalar value)
    | _ => none
  match parser.stage with
  | .finished value => some value
  | _ => none

/-- Read a JSON text. -/
def read? (bytes : Bytes) : Option Json :=
  bytes.foldlM Reader.step Reader.start >>= Reader.finish

/-- Read the JSON text in a string. -/
def ofString? (text : String) : Option Json :=
  read? (Utf8.encode text)

end Json
end Workflow
