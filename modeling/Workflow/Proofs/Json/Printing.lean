import Workflow.Json.Printer
import Workflow.Json.Reader
import Workflow.Proofs.Text.Utf8
import Workflow.Proofs.Uuid

/-!
# Printed values are read back

A value is printed without white space and read byte by byte.  A string may hold any characters, for
the pieces that its escapes are read as have the bytes of the text together.  So a value without
numbers whose containers are not nested too deeply is read back from what is printed.
-/

namespace Workflow
namespace Json

/-! ### Taking bytes -/

/-- A reader gets from one state to another over some bytes. -/
def Reader.Takes (reader : Reader) (bytes : Bytes) (next : Reader) : Prop :=
  bytes.foldlM Reader.step reader = some next

theorem Reader.Takes.append {reader middle next : Reader} {first second : Bytes}
    (takes : reader.Takes first middle) (then_takes : middle.Takes second next) :
    reader.Takes (first ++ second) next := by
  rw [Takes, List.foldlM_append, takes]
  exact then_takes

theorem Reader.takes_cons {reader next : Reader} {byte : UInt8} {bytes : Bytes} (middle : Reader)
    (step_eq : reader.step byte = some middle) (takes : middle.Takes bytes next) :
    reader.Takes (byte :: bytes) next := by
  rw [Takes, List.foldlM_cons, step_eq]
  exact takes

theorem Reader.takes_nil (reader : Reader) : reader.Takes [] reader :=
  rfl

private theorem toNat_char_byte (byte : UInt8) : (Char.ofNat byte.toNat).toNat = byte.toNat := by
  have valid : byte.toNat.isValidChar := .inl (by have := byte.toNat_lt; omega)
  rw [Char.ofNat, dif_pos valid]
  rfl

private theorem char_byte {c : Char} (ascii : c.toNat < 0x80) :
    Char.ofNat (UInt8.ofNat c.toNat).toNat = c := by
  rw [Utf8.toNat_ofNat (by omega), Char.ofNat_toNat]

/-! ### Strings -/

/-- Some pieces have the bytes of a part of a string, whatever follows. -/
def Spells (pieces : List Piece) (bytes : Bytes) : Prop :=
  ∀ rest, pieceBytes? (pieces ++ rest) = (pieceBytes? rest).map (bytes ++ ·)

theorem spells_nil : Spells [] [] := fun rest => by simp

theorem Spells.append {first second : List Piece} {first_bytes second_bytes : Bytes}
    (front : Spells first first_bytes) (back : Spells second second_bytes) :
    Spells (first ++ second) (first_bytes ++ second_bytes) := fun rest => by
  rw [List.append_assoc, front, back, Option.map_map]
  simp [Function.comp_def]

private theorem spells_bytes (bytes : Bytes) : Spells (bytes.map .byte) bytes := by
  induction bytes with
  | nil => exact spells_nil
  | cons byte bytes ih =>
      intro rest
      rw [List.map_cons, List.cons_append, pieceBytes?, ih, Option.map_map]
      rfl

private theorem spells_unit {c : Char} (ascii : c.toNat < 0x80) :
    Spells [.unit c.toNat] (String.utf8EncodeChar c) := by
  have high : isHighSurrogate c.toNat = false := by simp [isHighSurrogate]; omega
  have low : isLowSurrogate c.toNat = false := by simp [isLowSurrogate]; omega
  intro rest
  rw [List.singleton_append]
  cases rest with
  | nil => simp [pieceBytes?, high, low]
  | cons piece rest => cases piece <;> simp [pieceBytes?, high, low]

/-- Inside a string a reader takes bytes as pieces that spell a part of it. -/
def Inside (parser : Parser) (bytes part : Bytes) : Prop :=
  ∀ pieces, ∃ more, Spells more part ∧
    Reader.Takes ⟨.string pieces, parser⟩ bytes ⟨.string (more.reverse ++ pieces), parser⟩

section Strings

variable {parser : Parser}

theorem Inside.append {first second first_part second_part : Bytes}
    (front : Inside parser first first_part) (back : Inside parser second second_part) :
    Inside parser (first ++ second) (first_part ++ second_part) := by
  intro pieces
  obtain ⟨more, spells, takes⟩ := front pieces
  obtain ⟨rest, rest_spells, rest_takes⟩ := back (more.reverse ++ pieces)
  refine ⟨more ++ rest, spells.append rest_spells, ?_⟩
  rw [List.reverse_append, List.append_assoc]
  exact takes.append rest_takes

theorem inside_nil : Inside parser [] [] :=
  fun _ => ⟨[], spells_nil, Reader.takes_nil _⟩

private theorem inside_byte {byte : UInt8} (printable : 0x20 ≤ byte.toNat)
    (no_quote : byte.toNat ≠ 0x22) (no_backslash : byte.toNat ≠ 0x5C) :
    Inside parser [byte] [byte] := by
  intro pieces
  refine ⟨[.byte byte], spells_bytes [byte], Reader.takes_cons _ ?_ (Reader.takes_nil _)⟩
  have quote_ne : Char.ofNat byte.toNat ≠ '"' := fun same =>
    no_quote (by rw [← toNat_char_byte, same]; rfl)
  have backslash_ne : Char.ofNat byte.toNat ≠ '\\' := fun same =>
    no_backslash (by rw [← toNat_char_byte, same]; rfl)
  have not_control : ¬byte < 0x20 := by
    rw [UInt8.lt_iff_toNat_lt]
    exact Nat.not_lt.2 printable
  simp only [Reader.step]
  rw [if_neg quote_ne, if_neg backslash_ne, if_neg not_control]
  rfl

private theorem inside_bytes {bytes : Bytes}
    (plain : ∀ byte ∈ bytes, 0x20 ≤ byte.toNat ∧ byte.toNat ≠ 0x22 ∧ byte.toNat ≠ 0x5C) :
    Inside parser bytes bytes := by
  induction bytes with
  | nil => exact inside_nil
  | cons byte bytes ih =>
      obtain ⟨⟨printable, no_quote, no_backslash⟩, rest⟩ := List.forall_mem_cons.1 plain
      exact (inside_byte printable no_quote no_backslash).append (ih rest)

private theorem inside_escape (letter : Char) (ascii : letter.toNat < 0x80) {byte : UInt8}
    (letter_ne : letter ≠ 'u') (value_eq : simpleEscape? letter = some byte) :
    Inside parser [0x5C, .ofNat letter.toNat] [byte] := by
  intro pieces
  refine ⟨[.byte byte], spells_bytes [byte], Reader.takes_cons
    ⟨.escape pieces, parser⟩ rfl (Reader.takes_cons _ ?_ (Reader.takes_nil _))⟩
  simp only [Reader.step, char_byte ascii]
  rw [if_neg letter_ne, value_eq]
  rfl

private theorem hexDigit_ascii {digit : Nat} (lt : digit < 16) :
    (Text.hexDigit digit).toNat < 0x80 := by
  revert digit
  decide

private theorem step_unicode (pieces : List Piece) (missing value : Nat) {digit : Nat}
    (lt : digit < 16) :
    Reader.step ⟨.unicode pieces missing value, parser⟩ (.ofNat (Text.hexDigit digit).toNat) =
      some (if missing ≤ 1 then ⟨.string (.unit (value * 16 + digit) :: pieces), parser⟩
        else ⟨.unicode pieces (missing - 1) (value * 16 + digit), parser⟩) := by
  simp only [Reader.step, char_byte (hexDigit_ascii lt), Text.hexDigit?_hexDigit digit lt]
  rfl

private theorem inside_control {c : Char} (control : c.toNat < 0x20) :
    Inside parser ((['\\', 'u', '0', '0'] ++ Text.hexDigits 2 c.toNat).flatMap
      String.utf8EncodeChar) (String.utf8EncodeChar c) := by
  obtain ⟨high, high_eq⟩ : ∃ high, high = c.toNat >>> 4 % 16 := ⟨_, rfl⟩
  obtain ⟨low, low_eq⟩ : ∃ low, low = c.toNat % 16 := ⟨_, rfl⟩
  have value_eq : (((0 * 16 + 0) * 16 + 0) * 16 + high) * 16 + low = c.toNat := by
    rw [Nat.shiftRight_eq_div_pow] at high_eq
    omega
  have high_lt : high < 16 := by omega
  have low_lt : low < 16 := by omega
  have digits_eq : Text.hexDigits 2 c.toNat = [Text.hexDigit high, Text.hexDigit low] := by
    rw [high_eq, low_eq]
    rfl
  have bytes_eq : (['\\', 'u', '0', '0'] ++ Text.hexDigits 2 c.toNat).flatMap
      String.utf8EncodeChar =
        [0x5C, 0x75, .ofNat (Text.hexDigit 0).toNat, .ofNat (Text.hexDigit 0).toNat,
          .ofNat (Text.hexDigit high).toNat, .ofNat (Text.hexDigit low).toNat] := by
    rw [digits_eq, Utf8.flatMap_encodeChar_of_ascii]
    · rfl
    · simp [hexDigit_ascii high_lt, hexDigit_ascii low_lt]
  intro pieces
  refine ⟨[.unit c.toNat], spells_unit (by omega), ?_⟩
  rw [bytes_eq]
  refine Reader.takes_cons ⟨.escape pieces, parser⟩ rfl ?_
  refine Reader.takes_cons ⟨.unicode pieces 4 0, parser⟩ rfl ?_
  refine Reader.takes_cons _ (step_unicode pieces 4 0 (by omega)) ?_
  refine Reader.takes_cons _ (step_unicode pieces 3 _ (by omega)) ?_
  refine Reader.takes_cons _ (step_unicode pieces 2 _ high_lt) ?_
  refine Reader.takes_cons _ (step_unicode pieces 1 _ low_lt) ?_
  rw [if_pos (Nat.le_refl 1), ← value_eq]
  exact Reader.takes_nil _

private theorem inside_char (c : Char) :
    Inside parser ((escapeChar c).flatMap String.utf8EncodeChar) (String.utf8EncodeChar c) := by
  unfold escapeChar
  split_ifs with quote backslash backspace formFeed lineFeed carriageReturn tab control
  · subst quote
    exact inside_escape '"' (by decide) (by decide) rfl
  · subst backslash
    exact inside_escape '\\' (by decide) (by decide) rfl
  · subst backspace
    exact inside_escape 'b' (by decide) (by decide) rfl
  · subst formFeed
    exact inside_escape 'f' (by decide) (by decide) rfl
  · subst lineFeed
    exact inside_escape 'n' (by decide) (by decide) rfl
  · subst carriageReturn
    exact inside_escape 'r' (by decide) (by decide) rfl
  · subst tab
    exact inside_escape 't' (by decide) (by decide) rfl
  · exact inside_control control
  · rw [List.flatMap_singleton]
    refine inside_bytes fun byte member => ?_
    by_cases ascii : c.toNat < 0x80
    · rw [Utf8.encodeChar_of_ascii ascii, List.mem_singleton] at member
      have code_ne {other : Char} (c_ne : c ≠ other) : c.toNat ≠ other.toNat := fun same =>
        c_ne (Char.toNat_inj.1 same)
      rw [member, Utf8.toNat_ofNat (by omega)]
      exact ⟨Nat.not_lt.1 control, code_ne quote, code_ne backslash⟩
    · have := Utf8.le_of_mem_encodeChar (Nat.not_lt.1 ascii) member
      omega

private theorem inside_text (text : List Char) :
    Inside parser ((text.flatMap escapeChar).flatMap String.utf8EncodeChar)
      (text.flatMap String.utf8EncodeChar) := by
  induction text with
  | nil => exact inside_nil
  | cons c text ih =>
      rw [List.flatMap_cons, List.flatMap_append, List.flatMap_cons]
      exact (inside_char c).append ih

/-- A printed string is read as a token with its text. -/
theorem takes_printString {next : Parser} (text : String)
    (step_eq : parser.step (.text (some text)) = some next) :
    Reader.Takes ⟨.between, parser⟩ (Utf8.encode (printString text)) ⟨.between, next⟩ := by
  have inside : Inside parser _ _ := inside_text text.toList
  obtain ⟨more, spells, takes⟩ := inside []
  have text_eq : pieceText? more = some text := by
    have whole := spells []
    rw [List.append_nil, pieceBytes?, Option.map_some, List.append_nil] at whole
    rw [pieceText?, whole]
    exact Utf8.decode?_encode text
  have bytes_eq : Utf8.encode (printString text) =
      0x22 :: ((text.toList.flatMap escapeChar).flatMap String.utf8EncodeChar ++ [0x22]) := by
    simp only [Utf8.encode, printString, String.toList_ofList, List.flatMap_cons,
      List.flatMap_append, List.cons_append]
    rfl
  rw [bytes_eq]
  refine Reader.takes_cons ⟨.string [], parser⟩ rfl (takes.append ?_)
  refine Reader.takes_cons _ ?_ (Reader.takes_nil _)
  rw [List.append_nil]
  simp only [Reader.step]
  rw [if_pos (by decide), List.reverse_reverse, text_eq, step_eq]
  rfl

end Strings

/-! ### Places of values -/

/-- A reader stands behind a value, after which its parser will be in a known state; only a literal
name may still be open. -/
inductive Reader.Settles : Reader → Parser → Prop
  /-- The value is closed. -/
  | closed (parser : Parser) : Settles ⟨.between, parser⟩ parser
  /-- A literal name ends with the next byte that is no letter. -/
  | word {read : List Char} {value : Json} {parser next : Parser}
      (value_eq : word? read.reverse = some value)
      (step_eq : parser.step (.scalar value) = some next) : Settles ⟨.word read, parser⟩ next

private theorem Reader.Settles.step_eq {reader : Reader} {parser : Parser}
    (settles : reader.Settles parser) {byte : UInt8}
    (foreign : isWordChar (Char.ofNat byte.toNat) = false) :
    reader.step byte = Reader.next parser byte := by
  cases settles with
  | closed => rfl
  | word value_eq step_eq => simp [Reader.step, foreign, value_eq, step_eq]

theorem Reader.Settles.finish_eq {reader : Reader} {value : Json}
    (settles : reader.Settles ⟨[], .finished value⟩) : reader.finish = some value := by
  cases settles with
  | closed => rfl
  | word value_eq step_eq => simp [Reader.finish, value_eq, step_eq]

/-- A value may begin inside some containers. -/
def Parser.Awaits (parser : Parser) (containers : List Container) : Prop :=
  ∀ token, token ≠ .closeArray → parser.step token = Parser.begin containers token

theorem Parser.awaits_value (containers : List Container) :
    Parser.Awaits ⟨containers, .value⟩ containers :=
  fun _ _ => rfl

theorem Parser.awaits_firstItem (containers : List Container) :
    Parser.Awaits ⟨containers, .firstItem⟩ containers := by
  intro token token_ne
  cases token with
  | closeArray => exact absurd rfl token_ne
  | _ => cases containers <;> rfl

/-- Bytes are read as a value wherever one may begin with room for its containers. -/
def ReadAs (room : Nat) (bytes : Bytes) (value : Json) : Prop :=
  ∀ (containers : List Container) (parser : Parser), containers.length + room ≤ depthLimit →
    parser.Awaits containers →
      ∃ next, Reader.Takes ⟨.between, parser⟩ bytes next ∧
        next.Settles (Parser.place containers value)

theorem readAs_str (room : Nat) (text : String) :
    ReadAs room (Utf8.encode (printString text)) (.str text) :=
  fun _ _ _ awaits => ⟨_, takes_printString text (awaits _ nofun), .closed _⟩

private theorem readAs_word (room : Nat) {name : Bytes} {read : List Char} {value : Json}
    (takes : ∀ parser, Reader.Takes ⟨.between, parser⟩ name ⟨.word read, parser⟩)
    (value_eq : word? read.reverse = some value) : ReadAs room name value :=
  fun _ parser _ awaits => ⟨_, takes parser, .word value_eq (awaits _ nofun)⟩

/-! ### Lists between brackets -/

section Enclosed

variable {α : Type} {text : α → String} {items : List α} (Ready : List α → Parser → Prop)
  (behind : List α → Parser)

/-- Texts with commas between them are read one after the other.  A parser that is ready for a text
is `behind` it afterwards, and the comma makes it ready again. -/
theorem takes_joined {done : List α} {parser : Parser} (nonempty : items ≠ [])
    (each : ∀ item ∈ items, ∀ done parser, Ready done parser →
      ∃ next, Reader.Takes ⟨.between, parser⟩ (Utf8.encode (text item)) next ∧
        next.Settles (behind (item :: done)))
    (comma : ∀ done, ∃ again, (behind done).step .comma = some again ∧ Ready done again)
    (ready : Ready done parser) :
    ∃ next, Reader.Takes ⟨.between, parser⟩
        (Utf8.encode (",".intercalate (items.map text))) next ∧
      next.Settles (behind (items.reverse ++ done)) := by
  induction items generalizing done parser with
  | nil => exact absurd rfl nonempty
  | cons item items ih =>
      obtain ⟨first, rest⟩ := List.forall_mem_cons.1 each
      obtain ⟨between, takes, settles⟩ := first done parser ready
      cases items with
      | nil =>
          rw [List.map_singleton, String.intercalate_singleton]
          exact ⟨between, takes, settles⟩
      | cons second items =>
          obtain ⟨again, comma_eq, ready_again⟩ := comma (item :: done)
          obtain ⟨next, rest_takes, rest_settles⟩ := ih (List.cons_ne_nil _ _) rest ready_again
          refine ⟨next, ?_, by simpa using rest_settles⟩
          rw [List.map_cons, List.map_cons, String.intercalate_cons_cons, Utf8.encode_append,
            Utf8.encode_append, List.append_assoc]
          refine takes.append (Reader.takes_cons _ ?_ rest_takes)
          rw [settles.step_eq rfl]
          change ((behind (item :: done)).step .comma).map _ = _
          rw [comma_eq]
          rfl

private theorem takes_enclosed {opening closing : String} {opener closer : UInt8}
    {parser first last : Parser} (opening_eq : Utf8.encode opening = [opener])
    (closing_eq : Utf8.encode closing = [closer])
    (foreign : isWordChar (Char.ofNat closer.toNat) = false)
    (opens : Reader.next parser opener = some ⟨.between, first⟩) (ready : Ready [] first)
    (each : ∀ item ∈ items, ∀ done parser, Ready done parser →
      ∃ next, Reader.Takes ⟨.between, parser⟩ (Utf8.encode (text item)) next ∧
        next.Settles (behind (item :: done)))
    (comma : ∀ done, ∃ again, (behind done).step .comma = some again ∧ Ready done again)
    (closes_empty : items = [] → Reader.next first closer = some ⟨.between, last⟩)
    (closes : Reader.next (behind items.reverse) closer = some ⟨.between, last⟩) :
    Reader.Takes ⟨.between, parser⟩ (Utf8.encode (enclose opening "," closing (items.map text)))
      ⟨.between, last⟩ := by
  rw [enclose, Utf8.encode_append, Utf8.encode_append, opening_eq, closing_eq]
  by_cases empty : items = []
  · rw [empty]
    exact Reader.takes_cons _ opens (Reader.takes_cons _ (closes_empty empty) (Reader.takes_nil _))
  · obtain ⟨next, takes, settles⟩ := takes_joined Ready behind empty each comma ready
    refine Reader.Takes.append (Reader.takes_cons _ opens takes)
      (Reader.takes_cons _ ?_ (Reader.takes_nil _))
    rw [settles.step_eq foreign, List.append_nil, closes]

end Enclosed

/-! ### Arrays and objects -/

private theorem printItems_eq_map (items : List Json) : printItems items = items.map print := by
  induction items with
  | nil => rfl
  | cons item items ih => rw [printItems, ih, List.map_cons]

/-- What is written for a field. -/
def printField (field : String × Json) : String :=
  printString field.1 ++ ":" ++ field.2.print

private theorem printFields_eq_map (fields : List (String × Json)) :
    printFields fields = fields.map printField := by
  induction fields with
  | nil => rfl
  | cons field fields ih => rw [printFields, ih, List.map_cons, printField]

variable {room : Nat}

theorem readAs_arr {items : List Json}
    (each : ∀ item ∈ items, ReadAs room (Utf8.encode item.print) item) :
    ReadAs (room + 1) (Utf8.encode (print (.arr items))) (.arr items) := by
  intro containers parser fits awaits
  have closes : Parser.close (.array items.reverse) containers =
      Parser.place containers (.arr items) := by
    rw [Parser.close, if_pos (by omega), Container.value, List.reverse_reverse]
  have opens : Reader.next parser 0x5B =
      some ⟨.between, ⟨.array [] :: containers, .firstItem⟩⟩ := by
    change (parser.step .openArray).map _ = _
    rw [awaits .openArray nofun]
    rfl
  rw [print, printItems_eq_map]
  refine ⟨⟨.between, Parser.place containers (.arr items)⟩, ?_, .closed _⟩
  refine takes_enclosed (fun done parser => parser.Awaits (.array done :: containers))
    (fun done => ⟨.array done :: containers, .separator⟩) rfl rfl rfl opens
    (Parser.awaits_firstItem _) (fun item member done parser ready => ?each)
    (fun done => ⟨_, rfl, Parser.awaits_value _⟩) (fun empty => ?closes_empty) ?closes
  case each => exact each item member _ parser (by rw [List.length_cons]; omega) ready
  case closes_empty =>
    rw [← closes, empty]
    rfl
  case closes =>
    rw [← closes]
    rfl

/-- A field whose key has a text. -/
def keyed (field : String × Json) : Option String × Json :=
  (some field.1, field.2)

private theorem mapM_keyed (fields : List (String × Json)) :
    ((fields.map keyed).mapM fun field => field.1.map (·, field.2)) = some fields := by
  induction fields with
  | nil => rfl
  | cons field fields ih => rw [List.map_cons, List.mapM_cons, ih]; rfl

theorem readAs_obj {fields : List (String × Json)}
    (each : ∀ field ∈ fields, ReadAs room (Utf8.encode field.2.print) field.2) :
    ReadAs (room + 1) (Utf8.encode (print (.obj fields))) (.obj fields) := by
  intro containers parser fits awaits
  have closes : Parser.close (.object (fields.reverse.map keyed) none) containers =
      Parser.place containers (.obj fields) := by
    rw [Parser.close, if_pos (by omega), Container.value, List.map_reverse, List.reverse_reverse,
      mapM_keyed]
  have opens : Reader.next parser 0x7B =
      some ⟨.between, ⟨.object [] none :: containers, .firstKey⟩⟩ := by
    change (parser.step .openObject).map _ = _
    rw [awaits .openObject nofun]
    rfl
  rw [print, printFields_eq_map]
  refine ⟨⟨.between, Parser.place containers (.obj fields)⟩, ?_, .closed _⟩
  refine takes_enclosed
    (fun done parser => ∀ key,
      parser.step (.text key) = some ⟨.object (done.map keyed) key :: containers, .colon⟩)
    (fun done => ⟨.object (done.map keyed) none :: containers, .separator⟩) rfl rfl rfl
    opens (fun _ => rfl) (fun field member done parser ready => ?each)
    (fun done => ⟨_, rfl, fun _ => rfl⟩) (fun empty => ?closes_empty) ?closes
  case each =>
    obtain ⟨next, takes, settles⟩ := each field member
      (.object (done.map keyed) (some field.1) :: containers) _ (by rw [List.length_cons]; omega)
      (Parser.awaits_value _)
    refine ⟨next, ?_, settles⟩
    rw [printField, Utf8.encode_append, Utf8.encode_append, List.append_assoc]
    exact (takes_printString field.1 (ready _)).append (Reader.takes_cons _ rfl takes)
  case closes_empty =>
    rw [← closes, empty]
    rfl
  case closes =>
    rw [← closes]
    rfl

/-! ### Values -/

mutual

/-- Whether a value has no numbers, and at most so many containers around one another. -/
def isPlain : (room : Nat) → Json → Bool
  | _, .null | _, .bool _ | _, .str _ => true
  | _, .num _ | _, .invalid => false
  | room, .arr items => 0 < room && plainItems (room - 1) items
  | room, .obj fields => 0 < room && plainFields (room - 1) fields

/-- Whether the items of a list are plain. -/
def plainItems : (room : Nat) → List Json → Bool
  | _, [] => true
  | room, item :: rest => item.isPlain room && plainItems room rest

/-- Whether the values of fields are plain. -/
def plainFields : (room : Nat) → List (String × Json) → Bool
  | _, [] => true
  | room, (_, value) :: rest => value.isPlain room && plainFields room rest

end

mutual

theorem readAs_print : (value : Json) → (room : Nat) → value.isPlain room = true →
    ReadAs room (Utf8.encode value.print) value
  | .null, room, _ => readAs_word room (fun _ => rfl) rfl
  | .bool true, room, _ => readAs_word room (fun _ => rfl) rfl
  | .bool false, room, _ => readAs_word room (fun _ => rfl) rfl
  | .str text, room, _ => readAs_str room text
  | .arr _, 0, plain => nomatch plain
  | .obj _, 0, plain => nomatch plain
  | .arr items, room + 1, plain =>
      readAs_arr (readAs_items items room (by simpa [isPlain] using plain))
  | .obj fields, room + 1, plain =>
      readAs_obj (readAs_fields fields room (by simpa [isPlain] using plain))

theorem readAs_items : (items : List Json) → (room : Nat) → plainItems room items = true →
    ∀ item ∈ items, ReadAs room (Utf8.encode item.print) item
  | [], _, _, _, member => nomatch member
  | item :: items, room, plain, other, member => by
      obtain ⟨first, rest⟩ := Bool.and_eq_true_iff.1 plain
      rcases List.mem_cons.1 member with same | later
      · exact same ▸ readAs_print item room first
      · exact readAs_items items room rest other later

theorem readAs_fields : (fields : List (String × Json)) → (room : Nat) →
    plainFields room fields = true →
      ∀ field ∈ fields, ReadAs room (Utf8.encode field.2.print) field.2
  | [], _, _, _, member => nomatch member
  | (_, value) :: fields, room, plain, other, member => by
      obtain ⟨first, rest⟩ := Bool.and_eq_true_iff.1 plain
      rcases List.mem_cons.1 member with same | later
      · exact same ▸ readAs_print value room first
      · exact readAs_fields fields room rest other later

end

/-- A value without numbers whose containers are not nested too deeply is read back. -/
theorem read?_print {value : Json} (plain : value.isPlain depthLimit = true) :
    read? (Utf8.encode value.print) = some value := by
  obtain ⟨next, takes, settles⟩ := readAs_print value depthLimit plain [] ⟨[], .value⟩
    (by simp) (Parser.awaits_value [])
  rw [read?, Reader.start, takes]
  exact settles.finish_eq

end Json
end Workflow
