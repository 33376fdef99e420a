import Mathlib.Tactic.Ring
import Workflow.Uuid

/-!
# Written identifiers

A row of hexadecimal digits denotes the number that it was made from, and groups that are joined by
hyphens come apart again.  So the written form of an identifier reads back, and identifiers that are
written alike are the same.
-/

namespace Workflow

namespace Text

theorem hexDigit?_hexDigit : ∀ value < 16, hexDigit? (hexDigit value) = some value := by
  decide

theorem length_hexDigits (width value : Nat) : (hexDigits width value).length = width := by
  induction width with
  | zero => rfl
  | succ width ih => simp [hexDigits, ih]

theorem number_cons (base digit : Nat) (digits : List Nat) :
    number base (digit :: digits) = digit * base ^ digits.length + number base digits := by
  have from_start (start : Nat) :
      digits.foldl (fun value digit => value * base + digit) start =
        start * base ^ digits.length + number base digits := by
    induction digits generalizing start with
    | nil => simp [number]
    | cons next digits ih =>
        rw [number, List.foldl_cons, List.foldl_cons, ih, ih (0 * base + next), List.length_cons,
          pow_succ]
        ring
  simpa [number] using from_start digit

/-- Hexadecimal digits denote the last places of the number that they were made from. -/
theorem hexNumber?_hexDigits (width value : Nat) :
    hexNumber? (hexDigits width value) = some (value % 16 ^ width) := by
  suffices ∃ digits, (hexDigits width value).mapM hexDigit? = some digits ∧
      digits.length = width ∧ number 16 digits = value % 16 ^ width by
    obtain ⟨digits, read, -, number_eq⟩ := this
    simp [hexNumber?, read, number_eq]
  induction width with
  | zero => exact ⟨[], rfl, rfl, by simp [number, Nat.mod_one]⟩
  | succ width ih =>
      obtain ⟨digits, read, length_eq, number_eq⟩ := ih
      have first := hexDigit?_hexDigit _ (Nat.mod_lt (value >>> (4 * width)) (by decide : 0 < 16))
      refine ⟨value >>> (4 * width) % 16 :: digits, ?_, congrArg (· + 1) length_eq, ?_⟩
      · rw [hexDigits, List.mapM_cons, first, read]
        rfl
      · have base_eq : 2 ^ (4 * width) = 16 ^ width := pow_mul 2 4 width
        rw [number_cons, length_eq, number_eq, Nat.mod_pow_succ, Nat.shiftRight_eq_div_pow, base_eq]
        ring

end Text

namespace Uuid

open Text

theorem length_hyphenate {lengths : List Nat} {digits : List Char}
    (enough : digits.length = lengths.sum) :
    (hyphenate lengths digits).length = lengths.sum + (lengths.length - 1) := by
  induction lengths generalizing digits with
  | nil => rfl
  | cons length lengths ih =>
      cases lengths with
      | nil => simpa [hyphenate] using enough.ge
      | cons next lengths =>
          have rest := @ih (digits.drop length) (by simp_all)
          simp only [hyphenate, List.length_append, List.length_take, List.length_cons,
            List.sum_cons] at rest enough ⊢
          omega

/-- Groups that are joined by hyphens come apart again. -/
theorem dehyphenate?_hyphenate {lengths : List Nat} {digits : List Char}
    (enough : digits.length = lengths.sum) :
    dehyphenate? lengths (hyphenate lengths digits) = some digits := by
  induction lengths generalizing digits with
  | nil => simpa [dehyphenate?, hyphenate, eq_comm] using enough
  | cons length lengths ih =>
      cases lengths with
      | nil =>
          obtain rfl : digits.length = length := by simpa using enough
          simp [dehyphenate?, hyphenate]
      | cons next lengths =>
          have rest := @ih (digits.drop length) (by simp_all)
          have front : (digits.take length).length = length := by simp_all
          rw [hyphenate, dehyphenate?]
          simp only [List.drop_left' front, List.take_left' front, rest, Option.map_some,
            List.take_append_drop]
          all_goals simp

private theorem take_hyphenate_ne_urnPrefix (value : Nat) :
    ((hyphenate groupLengths (hexDigits 32 value)).take 9).map Char.toLower ≠ urnPrefix := by
  have digit_ne : ∀ digit < 16, (hexDigit digit).toLower ≠ 'u' := by decide
  obtain ⟨rest, begins⟩ : ∃ rest, hyphenate groupLengths (hexDigits 32 value) =
      hexDigit (value >>> 124 % 16) :: rest := ⟨_, rfl⟩
  intro same
  rw [begins, List.take_succ_cons, List.map_cons] at same
  exact digit_ne _ (Nat.mod_lt _ (by decide)) (List.cons.inj same).1

/-- The written form of an identifier reads back. -/
theorem ofString?_toString (id : Uuid) : ofString? id.toString = some id := by
  have enough : (hexDigits 32 id.value.val).length = groupLengths.sum := length_hexDigits _ _
  have length_eq : (hyphenate groupLengths (hexDigits 32 id.value.val)).length = 36 :=
    length_hyphenate enough
  have below : id.value.val % 16 ^ 32 = id.value.val := Nat.mod_eq_of_lt id.value.isLt
  have id_eq : ofNat id.value.val = id := eq_of_val_eq (Nat.mod_eq_of_lt id.value.isLt)
  have read : ofGroups? (hyphenate groupLengths (hexDigits 32 id.value.val)) = some id := by
    rw [ofGroups?, dehyphenate?_hyphenate enough, Option.bind_eq_bind, Option.bind_some, ofDigits?,
      if_pos (length_hexDigits _ _), hexNumber?_hexDigits, below, Option.map_some, id_eq]
  simpa [ofString?, toString, length_eq, take_hyphenate_ne_urnPrefix, -List.map_take] using read

/-- Identifiers that are written alike are the same. -/
theorem toString_injective : Function.Injective toString := fun first second same => by
  have read := congrArg ofString? same
  rwa [ofString?_toString, ofString?_toString, Option.some.injEq] at read

end Uuid
end Workflow
