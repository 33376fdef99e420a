import Mathlib.Data.List.TakeWhile
import Workflow.Binary64.Numeral
import Workflow.Proofs.Text.Decimal

/-!
# Numerals are written in ASCII

Whatever is read as a number consists of characters of ASCII only: a sign, the letters of a name in
either case, digits, a point and the mark of an exponent.
-/

namespace Workflow

/-- The text consists of characters of ASCII. -/
def Text.IsAscii (text : List Char) : Prop :=
  ∀ c ∈ text, c.toNat < 0x80

namespace Text

variable {text : List Char}

theorem isAscii_iff_all : IsAscii text ↔ (text.all fun c => c.toNat < 0x80) = true := by
  simp [IsAscii]

instance (text : List Char) : Decidable (IsAscii text) :=
  decidable_of_iff _ isAscii_iff_all.symm

theorem isAscii_cons {c : Char} : IsAscii (c :: text) ↔ c.toNat < 0x80 ∧ IsAscii text :=
  List.forall_mem_cons

theorem isAscii_append {front : List Char} :
    IsAscii (front ++ text) ↔ IsAscii front ∧ IsAscii text :=
  List.forall_mem_append

private theorem lt_of_isDecimalDigit {c : Char} (digit : isDecimalDigit c = true) :
    c.toNat < 0x80 := by
  have upper : c.toNat ≤ '9'.toNat := (isDecimalDigit_iff.1 digit).2
  exact Nat.lt_of_le_of_lt upper (by decide)

private theorem isAscii_takeWhile_digits : IsAscii (text.takeWhile isDecimalDigit) :=
  fun _ member => lt_of_isDecimalDigit (List.mem_takeWhile_imp member)

private theorem isAscii_of_decimalNumber? {value : Nat} (read : decimalNumber? text = some value) :
    IsAscii text := by
  rw [decimalNumber?] at read
  split at read
  · cases read
  · obtain ⟨digits, digits_read, -⟩ := Option.map_eq_some_iff.1 read
    intro c member
    obtain ⟨digit, -, digit_eq⟩ := exists_of_mem_forall₂ (mapM_eq_some_iff.1 digits_read) member
    exact lt_of_isDecimalDigit (Option.isSome_of_eq_some digit_eq)

private theorem isAscii_of_map_toLower (ascii : IsAscii (text.map Char.toLower)) :
    IsAscii text := by
  intro c member
  have lower : c.toLower.toNat < 0x80 := ascii _ (List.mem_map_of_mem member)
  delta Char.toLower at lower
  split at lower
  · rename_i bounds
    have upper : c.toNat ≤ 'Z'.toNat := bounds.2
    exact Nat.lt_of_le_of_lt upper (by decide)
  · exact lower

end Text

namespace Binary64

open Text

variable {text : List Char}

private theorem isAscii_of_takeSign (ascii : IsAscii (takeSign text).2) : IsAscii text := by
  unfold takeSign at ascii
  split at ascii
  · exact isAscii_cons.2 ⟨by decide, ascii⟩
  · exact isAscii_cons.2 ⟨by decide, ascii⟩
  · exact ascii

private theorem isAscii_of_exponentPart? {value : Int} (read : exponentPart? text = some value) :
    IsAscii text := by
  cases text with
  | nil => exact nofun
  | cons mark rest =>
      rw [exponentPart?] at read
      split at read
      · rename_i mark_eq
        have mark_lt : mark.toNat < 0x80 := by
          rcases mark_eq with rfl | rfl <;> decide
        obtain ⟨⟨negative, digits⟩, signed⟩ : ∃ parts, takeSign rest = parts := ⟨_, rfl⟩
        rw [signed] at read
        obtain ⟨_, digits_read, -⟩ := Option.map_eq_some_iff.1 read
        obtain ⟨_, digits_read, -⟩ := Option.bind_eq_some_iff.1 digits_read
        have digits_ascii : IsAscii (takeSign rest).2 := by
          rw [signed]
          exact isAscii_of_decimalNumber? digits_read
        exact isAscii_cons.2 ⟨mark_lt, isAscii_of_takeSign digits_ascii⟩
      · exact nomatch read

private theorem isAscii_of_ofDecimalText? {negative : Bool} {value : Binary64}
    (read : ofDecimalText? negative text = some value) : IsAscii text := by
  have after : IsAscii (text.dropWhile isDecimalDigit) := by
    rw [ofDecimalText?] at read
    dsimp only at read
    obtain ⟨_, -, read⟩ := Option.bind_eq_some_iff.1 read
    obtain ⟨_, exponent_read, -⟩ := Option.bind_eq_some_iff.1 read
    have rest_ascii := isAscii_of_exponentPart? exponent_read
    split at rest_ascii
    · rename_i tail tail_eq
      rw [tail_eq, isAscii_cons,
        ← List.takeWhile_append_dropWhile (p := isDecimalDigit) (l := tail)]
      exact ⟨by decide, isAscii_append.2 ⟨isAscii_takeWhile_digits, rest_ascii⟩⟩
    · exact rest_ascii
  rw [← List.takeWhile_append_dropWhile (p := isDecimalDigit) (l := text)]
  exact isAscii_append.2 ⟨isAscii_takeWhile_digits, after⟩

/-- Whatever is read as a number is written in ASCII. -/
theorem isAscii_of_ofText? {value : Binary64} (read : ofText? text = some value) :
    IsAscii text := by
  refine isAscii_of_takeSign ?_
  unfold ofText? at read
  dsimp only at read
  have named {name : String} (ascii : IsAscii name.toList)
      (name_eq : String.ofList ((takeSign text).2.map Char.toLower) = name) :
      IsAscii (takeSign text).2 := by
    refine isAscii_of_map_toLower ?_
    rw [← String.toList_ofList (l := (takeSign text).2.map Char.toLower), name_eq]
    exact ascii
  split at read
  · rename_i infinite
    rcases infinite with short | long
    · exact named (by decide) short
    · exact named (by decide) long
  · split at read
    · rename_i undefined
      exact named (by decide) undefined
    · exact isAscii_of_ofDecimalText? read

end Binary64
end Workflow
