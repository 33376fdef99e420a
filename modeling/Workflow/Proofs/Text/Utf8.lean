import Mathlib.Data.List.Basic
import Workflow.Text.Utf8

/-!
# Texts and their bytes

The bytes of a character are read as that character, whatever follows them, and so the bytes of a
text are read as that text.
-/

namespace Workflow
namespace Utf8

theorem toNat_ofNat {value : Nat} (small : value < 256) : (UInt8.ofNat value).toNat = value :=
  UInt8.toNat_ofNat_of_lt' small

/-! ### Writing -/

@[simp]
theorem encode_append (first second : String) :
    encode (first ++ second) = encode first ++ encode second := by
  simp [encode]

theorem encodeChar_of_ascii {c : Char} (ascii : c.toNat < 0x80) :
    String.utf8EncodeChar c = [.ofNat c.toNat] := by
  have small : c.val.toNat ≤ 127 := Nat.le_of_lt_succ ascii
  simp only [String.utf8EncodeChar, if_pos small]
  rfl

theorem flatMap_encodeChar_of_ascii {text : List Char} (ascii : ∀ c ∈ text, c.toNat < 0x80) :
    text.flatMap String.utf8EncodeChar = text.map fun c => .ofNat c.toNat := by
  induction text with
  | nil => rfl
  | cons c text ih =>
      obtain ⟨head, tail⟩ := List.forall_mem_cons.1 ascii
      rw [List.flatMap_cons, encodeChar_of_ascii head, ih tail]
      rfl

/-- The bytes of every other character lie beyond ASCII. -/
theorem le_of_mem_encodeChar {c : Char} (foreign : 0x80 ≤ c.toNat) {byte : UInt8}
    (member : byte ∈ String.utf8EncodeChar c) : 0x80 ≤ byte.toNat := by
  have large : ¬c.val.toNat ≤ 127 := Nat.not_le.2 foreign
  simp only [String.utf8EncodeChar, if_neg large] at member
  split_ifs at member <;> simp only [List.mem_cons, List.not_mem_nil, or_false] at member <;>
    rcases member with rfl | rfl | rfl | rfl <;> simp only [UInt8.toNat_ofNat'] <;> omega

/-! ### Reading -/

private theorem toNat_valid (c : Char) : c.toNat < 0xD800 ∨ 0xDFFF < c.toNat ∧ c.toNat < 0x110000 :=
  c.valid

/-- An opened character goes on with six bits in a byte of the admissible range. -/
structure Admits (opened : Opened) (bits : Nat) : Prop where
  /-- There are six bits. -/
  lt : bits < 64
  /-- The byte is not below the range. -/
  low_le : opened.low.toNat ≤ bits + 128
  /-- The byte is not above the range. -/
  le_high : bits + 128 ≤ opened.high.toNat

private theorem Admits.units_some {opened : Opened} {bits : Nat} (admits : Admits opened bits)
    (rest : Bytes) :
    units (some opened) (.ofNat (bits + 128) :: rest) =
      match opened.later with
      | 0 => some (Char.ofNat (opened.value * 64 + bits)) :: units none rest
      | later + 1 => units (some ⟨opened.value * 64 + bits, later, 0x80, 0xBF⟩) rest := by
  obtain ⟨lt, low_le, le_high⟩ := admits
  have byte_eq : (UInt8.ofNat (bits + 128)).toNat = bits + 128 := toNat_ofNat (by omega)
  have within : opened.low ≤ .ofNat (bits + 128) ∧ .ofNat (bits + 128) ≤ opened.high := by
    rw [UInt8.le_iff_toNat_le, UInt8.le_iff_toNat_le, byte_eq]
    exact ⟨low_le, le_high⟩
  have extend_eq : opened.extend (.ofNat (bits + 128)) = opened.value * 64 + bits := by
    unfold Opened.extend
    rw [byte_eq]
    omega
  rw [units, if_pos within]
  cases opened.later <;> simp only [extend_eq]

private theorem lead_two (value : Nat) (low : 2 ≤ value) (high : value < 32) :
    lead (.ofNat (value + 192)) = .opens ⟨value, 0, 0x80, 0xBF⟩ := by
  have byte_eq : (UInt8.ofNat (value + 192)).toNat = value + 192 := toNat_ofNat (by omega)
  simp only [lead, byte_eq]
  rw [if_neg (by omega), if_neg (by omega), if_pos (by omega)]
  simp

private theorem lead_three (value bits : Nat) (high : value < 16) (lt : bits < 64)
    (long : value = 0 → 32 ≤ bits) (valid : value = 13 → bits < 32) :
    ∃ low high, lead (.ofNat (value + 224)) = .opens ⟨value, 1, low, high⟩ ∧
      Admits ⟨value, 1, low, high⟩ bits := by
  have byte_eq : (UInt8.ofNat (value + 224)).toNat = value + 224 := toNat_ofNat (by omega)
  simp only [lead, byte_eq]
  rw [if_neg (by omega), if_neg (by omega), if_neg (by omega)]
  split_ifs with zero surrogate
  · obtain rfl : value = 0 := by omega
    exact ⟨_, _, rfl, lt, by have := long rfl; change 160 ≤ _; omega, by change _ ≤ 191; omega⟩
  · obtain rfl : value = 13 := by omega
    exact ⟨_, _, rfl, lt, by change 128 ≤ _; omega, by have := valid rfl; change _ ≤ 159; omega⟩
  · refine ⟨0x80, 0xBF, by simp, lt, by change 128 ≤ _; omega, by change _ ≤ 191; omega⟩
  all_goals omega

private theorem lead_four (value bits : Nat) (high : value < 5) (lt : bits < 64)
    (long : value = 0 → 16 ≤ bits) (valid : value = 4 → bits < 16) :
    ∃ low high, lead (.ofNat (value + 240)) = .opens ⟨value, 2, low, high⟩ ∧
      Admits ⟨value, 2, low, high⟩ bits := by
  have byte_eq : (UInt8.ofNat (value + 240)).toNat = value + 240 := toNat_ofNat (by omega)
  simp only [lead, byte_eq]
  rw [if_neg (by omega), if_neg (by omega), if_neg (by omega), if_neg (by omega),
    if_neg (by omega), if_neg (by omega)]
  split_ifs with zero middle last
  · obtain rfl : value = 0 := by omega
    exact ⟨_, _, rfl, lt, by have := long rfl; change 144 ≤ _; omega, by change _ ≤ 191; omega⟩
  · exact ⟨0x80, 0xBF, by simp, lt, by change 128 ≤ _; omega, by change _ ≤ 191; omega⟩
  · obtain rfl : value = 4 := by omega
    exact ⟨_, _, rfl, lt, by change 128 ≤ _; omega, by have := valid rfl; change _ ≤ 143; omega⟩
  · omega

/-- The bytes of a character are read as this character, and then the rest is read. -/
theorem units_encodeChar (c : Char) (rest : Bytes) :
    units none (String.utf8EncodeChar c ++ rest) = some c :: units none rest := by
  have valid := toNat_valid c
  obtain ⟨code, code_eq⟩ : ∃ code, c.toNat = code := ⟨_, rfl⟩
  have c_eq : c = Char.ofNat code := by rw [← code_eq, Char.ofNat_toNat]
  rw [code_eq] at valid
  simp only [String.utf8EncodeChar]
  rw [show c.val.toNat = code from code_eq]
  have last : code / 64 * 64 + code % 64 = code := by omega
  have middle : code / 4096 * 64 + code / 64 % 64 = code / 64 := by omega
  have plain (value later : Nat) (digit : Nat) :
      Admits ⟨value, later, 0x80, 0xBF⟩ (digit % 64) :=
    ⟨by omega, by change 128 ≤ _; omega, by change _ ≤ 191; omega⟩
  split_ifs with one two three
  · have byte_eq : (UInt8.ofNat code).toNat = code := toNat_ofNat (by omega)
    have lead_eq : lead (.ofNat code) = .whole c := by
      simp only [lead, byte_eq]
      rw [if_pos (by omega), c_eq]
    rw [List.singleton_append, units, lead_eq]
  · have lead_eq := lead_two (code / 64 % 32) (by omega) (by omega)
    have top : code / 64 % 32 = code / 64 := by omega
    simp only [List.cons_append, List.nil_append]
    rw [units, lead_eq]
    dsimp only
    rw [(plain _ _ _).units_some]
    dsimp only
    rw [top, last, ← c_eq]
  · obtain ⟨low, high, lead_eq, admits⟩ :=
      lead_three (code / 4096 % 16) (code / 64 % 64) (by omega) (by omega) (by omega) (by omega)
    have top : code / 4096 % 16 = code / 4096 := by omega
    simp only [List.cons_append, List.nil_append]
    rw [units, lead_eq]
    dsimp only
    rw [admits.units_some]
    dsimp only
    rw [(plain _ _ _).units_some]
    dsimp only
    rw [top, middle, last, ← c_eq]
  · obtain ⟨low, high, lead_eq, admits⟩ :=
      lead_four (code / 262144 % 8) (code / 4096 % 64) (by omega) (by omega) (by omega) (by omega)
    have top : code / 262144 % 8 = code / 262144 := by omega
    have upper : code / 262144 * 64 + code / 4096 % 64 = code / 4096 := by omega
    simp only [List.cons_append, List.nil_append]
    rw [units, lead_eq]
    dsimp only
    rw [admits.units_some]
    dsimp only
    rw [(plain _ _ _).units_some]
    dsimp only
    rw [(plain _ _ _).units_some]
    dsimp only
    rw [top, upper, middle, last, ← c_eq]

theorem units_encode (text : List Char) :
    units none (text.flatMap String.utf8EncodeChar) = text.map some := by
  induction text with
  | nil => rfl
  | cons c text ih => rw [List.flatMap_cons, units_encodeChar, ih, List.map_cons]

/-- The bytes of a text are read as that text. -/
@[simp]
theorem decode?_encode (text : String) : decode? (encode text) = some text := by
  have whole (chars : List Char) : (chars.map some).mapM id = some chars := by
    induction chars with
    | nil => rfl
    | cons c chars ih => simp [List.mapM_cons, ih]
  rw [decode?, encode, units_encode, whole]
  simp

end Utf8
end Workflow
