import Workflow.Proofs.Table
import Workflow.Proofs.Text.Utf8

/-!
# Bytes that are a text

The reader accepts a byte sequence only if it is the bytes of the text that it reads: what completes
an opened character is the rest of the bytes of that character.  Hence a sequence is read exactly if
it is the bytes of a text, and any other sequence has an unreadable part.
-/

namespace Workflow
namespace Utf8

/-- Bytes that complete an opened character, and the character. -/
inductive Completes : Opened → Bytes → Char → Prop
  /-- The last byte. -/
  | last {opened : Opened} {byte : UInt8} (none_later : opened.later = 0)
      (low_le : opened.low ≤ byte) (le_high : byte ≤ opened.high) :
      Completes opened [byte] (Char.ofNat (opened.extend byte))
  /-- A byte that others follow. -/
  | next {opened : Opened} {byte : UInt8} {rest : Bytes} {c : Char} {later : Nat}
      (later_eq : opened.later = later + 1) (low_le : opened.low ≤ byte)
      (le_high : byte ≤ opened.high)
      (completes : Completes ⟨opened.extend byte, later, 0x80, 0xBF⟩ rest c) :
      Completes opened (byte :: rest) c

namespace Completes

variable {opened : Opened} {rest : Bytes} {c : Char}

private theorem eq_last (completes : Completes opened rest c) (none_later : opened.later = 0) :
    ∃ byte, rest = [byte] ∧ opened.low.toNat ≤ byte.toNat ∧ byte.toNat ≤ opened.high.toNat ∧
      c = Char.ofNat (opened.value * 64 + (byte.toNat - 0x80)) := by
  cases completes with
  | last _ low_le le_high => exact ⟨_, rfl, low_le, le_high, rfl⟩
  | next later_eq => omega

private theorem eq_next {later : Nat} (completes : Completes opened rest c)
    (later_eq : opened.later = later + 1) :
    ∃ byte tail, rest = byte :: tail ∧ opened.low.toNat ≤ byte.toNat ∧
      byte.toNat ≤ opened.high.toNat ∧
        Completes ⟨opened.value * 64 + (byte.toNat - 0x80), later, 0x80, 0xBF⟩ tail c := by
  cases completes with
  | last none_later => omega
  | next later_eq' low_le le_high completes =>
      obtain rfl := Nat.succ.inj (later_eq.symm.trans later_eq')
      exact ⟨_, _, rfl, low_le, le_high, completes⟩

end Completes

/-! ### The bytes of one character -/

private theorem lead_eq_opens {byte : UInt8} {opened : Opened} (opens : lead byte = .opens opened) :
    0x80 ≤ opened.low.toNat ∧ opened.high.toNat ≤ 0xBF ∧
      (opened.later = 0 ∧ byte.toNat = opened.value + 0xC0 ∧ 2 ≤ opened.value ∧
          opened.value < 32 ∨
        opened.later = 1 ∧ byte.toNat = opened.value + 0xE0 ∧ opened.value < 16 ∧
          (opened.value = 0 → 0xA0 ≤ opened.low.toNat) ∧
          (opened.value = 0xD → opened.high.toNat ≤ 0x9F) ∨
        opened.later = 2 ∧ byte.toNat = opened.value + 0xF0 ∧ opened.value < 5 ∧
          (opened.value = 0 → 0x90 ≤ opened.low.toNat) ∧
          (opened.value = 4 → opened.high.toNat ≤ 0x8F)) := by
  unfold lead at opens
  dsimp only at opens
  split_ifs at opens with ascii stray two zero surrogate three zero four last <;>
    obtain rfl := Lead.opens.inj opens <;> dsimp only <;> refine ⟨by decide, by decide, ?_⟩
  · exact .inl ⟨rfl, by omega, by omega, by omega⟩
  · exact .inr (.inl ⟨rfl, zero, by decide, by decide, by decide⟩)
  · exact .inr (.inl ⟨rfl, surrogate, by decide, by decide, by decide⟩)
  · exact .inr (.inl ⟨rfl, by omega, by omega, by omega, by omega⟩)
  · exact .inr (.inr ⟨rfl, zero, by decide, by decide, by decide⟩)
  · exact .inr (.inr ⟨rfl, by omega, by omega, by omega, by omega⟩)
  · exact .inr (.inr ⟨rfl, last, by decide, by decide, by decide⟩)

private theorem toNat_val_ofNat (code : Nat)
    (valid : code < 0xD800 ∨ 0xDFFF < code ∧ code < 0x110000) :
    (Char.ofNat code).val.toNat = code := by
  rw [Char.ofNat, dif_pos valid]
  rfl

private theorem ofNat_eq_of_toNat (byte : UInt8) {value : Nat} (value_eq : value = byte.toNat) :
    UInt8.ofNat value = byte := by
  rw [value_eq, UInt8.ofNat_toNat]

private theorem encodeChar_of_completes {byte : UInt8} {opened : Opened} {rest : Bytes} {c : Char}
    (opens : lead byte = .opens opened) (completes : Completes opened rest c) :
    String.utf8EncodeChar c = byte :: rest := by
  have least : (0x80 : UInt8).toNat = 0x80 := rfl
  have greatest : (0xBF : UInt8).toNat = 0xBF := rfl
  obtain ⟨least_le, le_greatest, two | three | four⟩ := lead_eq_opens opens
  · obtain ⟨later_eq, byte_eq, lower, upper⟩ := two
    obtain ⟨second, rfl, low_le, le_high, c_eq⟩ := completes.eq_last later_eq
    rw [c_eq]
    generalize code_eq : opened.value * 64 + (second.toNat - 0x80) = code
    simp only [String.utf8EncodeChar, toNat_val_ofNat code (by omega)]
    rw [if_neg (by omega), if_pos (by omega), ofNat_eq_of_toNat byte (by omega),
      ofNat_eq_of_toNat second (by omega)]
  · obtain ⟨later_eq, byte_eq, upper, long, valid⟩ := three
    obtain ⟨second, _, rfl, low_le, le_high, completes⟩ := completes.eq_next later_eq
    obtain ⟨third, rfl, low_le', le_high', c_eq⟩ := completes.eq_last rfl
    dsimp only at low_le' le_high' c_eq
    rw [c_eq]
    generalize code_eq :
      (opened.value * 64 + (second.toNat - 0x80)) * 64 + (third.toNat - 0x80) = code
    simp only [String.utf8EncodeChar, toNat_val_ofNat code (by omega)]
    rw [if_neg (by omega), if_neg (by omega), if_pos (by omega),
      ofNat_eq_of_toNat byte (by omega), ofNat_eq_of_toNat second (by omega),
      ofNat_eq_of_toNat third (by omega)]
  · obtain ⟨later_eq, byte_eq, upper, long, valid⟩ := four
    obtain ⟨second, _, rfl, low_le, le_high, completes⟩ := completes.eq_next later_eq
    obtain ⟨third, _, rfl, low_le', le_high', completes⟩ := completes.eq_next rfl
    obtain ⟨fourth, rfl, low_le'', le_high'', c_eq⟩ := completes.eq_last rfl
    dsimp only at low_le' le_high' low_le'' le_high'' c_eq
    rw [c_eq]
    generalize code_eq :
      ((opened.value * 64 + (second.toNat - 0x80)) * 64 + (third.toNat - 0x80)) * 64 +
        (fourth.toNat - 0x80) = code
    simp only [String.utf8EncodeChar, toNat_val_ofNat code (by omega)]
    rw [if_neg (by omega), if_neg (by omega), if_neg (by omega),
      ofNat_eq_of_toNat byte (by omega), ofNat_eq_of_toNat second (by omega),
      ofNat_eq_of_toNat third (by omega), ofNat_eq_of_toNat fourth (by omega)]

private theorem encodeChar_of_whole {byte : UInt8} {c : Char} (whole : lead byte = .whole c) :
    String.utf8EncodeChar c = [byte] := by
  unfold lead at whole
  dsimp only at whole
  split_ifs at whole with ascii
  rw [← Lead.whole.inj whole]
  simp only [String.utf8EncodeChar, toNat_val_ofNat byte.toNat (by omega)]
  rw [if_pos (by omega), UInt8.ofNat_toNat]

/-! ### All bytes -/

/-- Bytes are those of some characters; if a character has been opened, they complete it first. -/
def Spells : Option Opened → Bytes → List Char → Prop
  | none, bytes, chars => chars.flatMap String.utf8EncodeChar = bytes
  | some opened, bytes, chars => ∃ body c later, Completes opened body c ∧ chars = c :: later ∧
      bytes = body ++ later.flatMap String.utf8EncodeChar

private theorem none_cons_ne_map_some (rest : List (Option Char)) (chars : List Char) :
    none :: rest ≠ chars.map some := by
  cases chars <;> simp

private theorem spells_of_units {state : Option Opened} {bytes : Bytes} {chars : List Char}
    (read : units state bytes = chars.map some) : Spells state bytes chars := by
  induction bytes generalizing state chars with
  | nil =>
      cases state with
      | none =>
          obtain rfl := List.map_eq_nil_iff.1 read.symm
          rfl
      | some opened => exact absurd read (none_cons_ne_map_some _ _)
  | cons byte rest ih =>
      cases state with
      | none =>
          rw [units] at read
          cases lead_eq : lead byte with
          | whole c =>
              rw [lead_eq] at read
              obtain ⟨_, later, rfl, c_eq, rest_read⟩ := List.map_eq_cons_iff.1 read.symm
              obtain rfl := Option.some.inj c_eq
              have rest_eq : later.flatMap String.utf8EncodeChar = rest := ih rest_read.symm
              rw [Spells, List.flatMap_cons, encodeChar_of_whole lead_eq, rest_eq]
              rfl
          | opens opened =>
              rw [lead_eq] at read
              obtain ⟨body, c, later, completes, rfl, rest_eq⟩ := @ih (some opened) _ read
              rw [Spells, List.flatMap_cons, encodeChar_of_completes lead_eq completes, rest_eq]
              rfl
          | stray =>
              rw [lead_eq] at read
              exact absurd read (none_cons_ne_map_some _ _)
      | some opened =>
          rw [units] at read
          split at read
          · rename_i within
            cases later_eq : opened.later with
            | zero =>
                rw [later_eq] at read
                obtain ⟨c, later, rfl, c_eq, rest_read⟩ := List.map_eq_cons_iff.1 read.symm
                have rest_eq : later.flatMap String.utf8EncodeChar = rest := ih rest_read.symm
                refine ⟨[byte], c, later, ?_, rfl, by rw [rest_eq]; rfl⟩
                rw [Option.some.inj c_eq]
                exact .last later_eq within.1 within.2
            | succ count =>
                rw [later_eq] at read
                obtain ⟨body, c, later, completes, chars_eq, rest_eq⟩ := @ih (some _) _ read
                exact ⟨byte :: body, c, later, .next later_eq within.1 within.2 completes, chars_eq,
                  by rw [rest_eq]; rfl⟩
          · exact absurd read (none_cons_ne_map_some _ _)

/-- Bytes are read as a text exactly if they are the bytes of this text. -/
theorem decode?_eq_some_iff {bytes : Bytes} {text : String} :
    decode? bytes = some text ↔ encode text = bytes := by
  constructor
  · intro decoded
    obtain ⟨chars, read, rfl⟩ := Option.map_eq_some_iff.1 decoded
    have units_eq : units none bytes = chars.map some := by
      rw [← List.forall₂_eq_eq_eq, List.forall₂_map_right_iff]
      exact mapM_eq_some_iff.1 read
    rw [encode, String.toList_ofList]
    exact spells_of_units units_eq
  · rintro rfl
    exact decode?_encode text

theorem decode?_eq_none_iff {bytes : Bytes} :
    decode? bytes = none ↔ ∀ text, encode text ≠ bytes := by
  simp only [Option.eq_none_iff_forall_ne_some, ne_eq, decode?_eq_some_iff]

/-! ### Replacing what cannot be read -/

/-- The bytes of a text have no unreadable part. -/
theorem decodeLossy_encode (text : String) : decodeLossy (encode text) = text := by
  rw [decodeLossy, encode, units_encode]
  simp [Function.comp_def]

private theorem none_mem_of_mapM_eq_none {parts : List (Option Char)}
    (unread : parts.mapM id = none) :
    none ∈ parts := by
  induction parts with
  | nil => exact nomatch unread
  | cons part parts ih =>
      cases part with
      | none => exact List.mem_cons_self
      | some c =>
          have rest_unread : parts.mapM id = none := by
            cases rest : parts.mapM id with
            | none => rfl
            | some chars => simp [List.mapM_cons, rest] at unread
          exact List.mem_cons_of_mem _ (ih rest_unread)

/-- Bytes that are no text leave a replacement character. -/
theorem replacement_mem_decodeLossy {bytes : Bytes} (unreadable : decode? bytes = none) :
    replacement ∈ (decodeLossy bytes).toList := by
  rw [decodeLossy, String.toList_ofList]
  exact List.mem_map.2
    ⟨none, none_mem_of_mapM_eq_none (Option.map_eq_none_iff.1 unreadable), rfl⟩

end Utf8
end Workflow
