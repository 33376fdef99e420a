import Mathlib.Data.List.Infix
import Mathlib.Tactic.Ring
import Workflow.Proofs.Table
import Workflow.Text.Blank
import Workflow.Text.Digits

/-!
# Written numbers

A number in decimal digits reads back, with zeros in front or without, and a row of digits denotes
less than the power of ten that its length says.
-/

namespace Workflow
namespace Text

theorem number_append (base : Nat) (front : List Nat) (last : Nat) :
    number base (front ++ [last]) = number base front * base + last := by
  simp [number]

theorem number_replicate_zero (base count : Nat) (digits : List Nat) :
    number base (List.replicate count 0 ++ digits) = number base digits := by
  induction count with
  | zero => rfl
  | succ count ih => simpa [number, List.replicate_succ] using ih

private theorem number_lt {base : Nat} {digits : List Nat}
    (below : ∀ digit ∈ digits, digit < base) :
    number base digits < base ^ digits.length := by
  induction digits using List.reverseRecOn with
  | nil => simp [number]
  | append_singleton front last ih =>
      have last_lt : last < base := below last (by simp)
      have front_lt := ih fun digit member => below digit (by simp [member])
      calc
        number base (front ++ [last]) = number base front * base + last := number_append ..
        _ < (number base front + 1) * base := by
          rw [Nat.add_mul]
          omega
        _ ≤ base ^ front.length * base := Nat.mul_le_mul_right _ front_lt
        _ = base ^ (front ++ [last]).length := by simp [pow_succ]

private theorem decimalDigit?_digitChar :
    ∀ digit < 10, decimalDigit? digit.digitChar = some digit := by
  decide

private theorem decimalDigit?_lt {c : Char} {digit : Nat} (read : decimalDigit? c = some digit) :
    digit < 10 := by
  unfold decimalDigit? at read
  split at read
  · rename_i bounds
    obtain rfl := Option.some.inj read
    have le : c.toNat ≤ '9'.toNat := bounds.2
    have nine : '9'.toNat - '0'.toNat < 10 := by decide
    omega
  · exact nomatch read

private theorem exists_digits_decimalText (value : Nat) :
    ∃ digits, (decimalText value).mapM decimalDigit? = some digits ∧ number 10 digits = value := by
  induction value using Nat.strongRecOn with
  | ind value ih =>
      rw [decimalText, Nat.toDigits_eq_if (by decide)]
      split
      · rename_i small
        exact ⟨[value], by simp [decimalDigit?_digitChar value small], by simp [number]⟩
      · rename_i large
        obtain ⟨digits, read, number_eq⟩ := ih (value / 10) (by omega)
        rw [decimalText] at read
        refine ⟨digits ++ [value % 10], ?_, ?_⟩
        · simp [read, decimalDigit?_digitChar _ (Nat.mod_lt value (by decide))]
        · rw [number_append, number_eq]
          omega

/-- A number in decimal digits reads back, whatever zeros stand in front. -/
theorem decimalNumber?_paddedText (width value : Nat) :
    decimalNumber? (paddedText width value) = some value := by
  obtain ⟨digits, read, number_eq⟩ := exists_digits_decimalText value
  have text_ne : paddedText width value ≠ [] := by
    simp [paddedText, decimalText, Nat.toDigits_ne_nil]
  have zeros (count : Nat) :
      (List.replicate count '0').mapM decimalDigit? = some (List.replicate count 0) := by
    induction count with
    | zero => rfl
    | succ count ih =>
        have zero : decimalDigit? '0' = some 0 := by decide
        rw [List.replicate_succ, List.mapM_cons, zero, ih]
        rfl
  rw [decimalNumber?, if_neg (by simpa using text_ne), paddedText, List.mapM_append, zeros, read]
  simp [number_replicate_zero, number_eq]

theorem isDecimalDigit_iff {c : Char} : isDecimalDigit c = true ↔ '0' ≤ c ∧ c ≤ '9' := by
  simp [isDecimalDigit, decimalDigit?]

theorem isDecimalDigit_of_mem_paddedText {width value : Nat} {c : Char}
    (member : c ∈ paddedText width value) : isDecimalDigit c = true := by
  rcases List.mem_append.1 member with zero | digit
  · rw [List.eq_of_mem_replicate zero]
    decide
  · have ascii := Nat.isDigit_of_mem_toDigits (by decide) (by decide) digit
    exact isDecimalDigit_iff.2 (by simpa [Char.isDigit, Char.le_def] using ascii)

theorem decimalNumber?_lt {row : List Char} {value : Nat}
    (read : decimalNumber? row = some value) : value < 10 ^ row.length := by
  rw [decimalNumber?] at read
  split at read
  · exact nomatch read
  · obtain ⟨digits, digits_read, rfl⟩ := Option.map_eq_some_iff.1 read
    have related := mapM_eq_some_iff.1 digits_read
    rw [related.length_eq]
    refine number_lt fun digit member => ?_
    obtain ⟨c, _, c_read⟩ := exists_of_mem_forall₂ related.flip member
    exact decimalDigit?_lt c_read

theorem isBlank_of_isDecimalDigit {c : Char} (digit : isDecimalDigit c = true) :
    isBlank c = false := by
  have lower : '0'.toNat ≤ c.toNat := (isDecimalDigit_iff.1 digit).1
  have upper : c.toNat ≤ '9'.toNat := (isDecimalDigit_iff.1 digit).2
  have zero : '0'.toNat = 48 := rfl
  have nine : '9'.toNat = 57 := rfl
  simp only [isBlank, Bool.or_eq_false_iff, Bool.and_eq_false_iff, decide_eq_false_iff_not,
    beq_eq_false_iff_ne]
  omega

theorem length_paddedText {width value : Nat} (pos : 0 < width) (small : value < 10 ^ width) :
    (paddedText width value).length = width := by
  have short : (decimalText value).length ≤ width :=
    (Nat.length_toDigits_le_iff (by decide) pos).2 small
  rw [paddedText, List.length_append, List.length_replicate]
  omega

end Text
end Workflow
