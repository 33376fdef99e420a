import Workflow.Proofs.Text.Decimal
import Workflow.Timestamp.Reader

/-!
# Written moments

A moment that was read is in range: its date is a day of the calendar, and only the last second of a
minute runs past its end.  The written form of such a moment reads back.
-/

namespace Workflow

open Text

namespace Timestamp

/-! ### Reading what was written -/

private theorem digits_append {width value : Nat} {row rest : List Char}
    (digit : ∀ c ∈ row, isDecimalDigit c = true) (fits : row.length ≤ width)
    (ends : row.length = width ∨ rest.head?.all (!isDecimalDigit ·))
    (read : decimalNumber? row = some value) : digits width (row ++ rest) = some (value, rest) := by
  have row_eq : ((row ++ rest).take width).takeWhile isDecimalDigit = row := by
    rw [List.take_append, List.take_of_length_le fits, List.takeWhile_append_of_pos digit]
    rcases ends with full | ends
    · simp [full]
    · cases rest with
      | nil => simp
      | cons c rest =>
          have c_not : isDecimalDigit c = false := by simpa using ends
          cases width - row.length <;> simp [c_not]
  simp [digits, row_eq, read]

private theorem exists_cons_paddedText (width value : Nat) :
    ∃ c row, paddedText width value = c :: row ∧ isDecimalDigit c = true := by
  cases text_eq : paddedText width value with
  | nil => simp [paddedText, decimalText, Nat.toDigits_ne_nil] at text_eq
  | cons c row =>
      exact ⟨c, row, rfl, isDecimalDigit_of_mem_paddedText (text_eq ▸ List.mem_cons_self)⟩

theorem trimFront_cons {c : Char} (visible : isBlank c = false) (rest : List Char) :
    trimFront (c :: rest) = c :: rest := by
  simp [trimFront, visible]

private theorem trimFront_paddedText (width value : Nat) (rest : List Char) :
    trimFront (paddedText width value ++ rest) = paddedText width value ++ rest := by
  obtain ⟨c, row, text_eq, digit⟩ := exists_cons_paddedText width value
  rw [text_eq, List.cons_append, trimFront_cons (isBlank_of_isDecimalDigit digit)]

private theorem field_paddedText {value : Nat} (small : value < 100) (rest : List Char) :
    field (paddedText 2 value ++ rest) = some (value, rest) := by
  have length_eq : (paddedText 2 value).length = 2 := length_paddedText (by decide) small
  rw [field, trimFront_paddedText]
  exact digits_append (fun c => isDecimalDigit_of_mem_paddedText) length_eq.le (.inl length_eq)
    (decimalNumber?_paddedText 2 value)

theorem mark_cons {c : Char} (visible : isBlank c = false) (rest : List Char) :
    mark c (c :: rest) = some ((), rest) := by
  simp [mark, trimFront_cons visible]

private theorem year_yearText (value : Int) (rest : List Char) :
    year (Date.yearText value ++ '-' :: rest) = some (value, '-' :: rest) := by
  have hyphen : isDecimalDigit '-' = false := by decide
  unfold Date.yearText
  split
  · rename_i bounds
    have toNat_eq : (value.toNat : Int) = value := by omega
    have length_eq : (paddedText 4 value.toNat).length = 4 :=
      length_paddedText (by decide) (by omega)
    have read := @digits_append 4 value.toNat (paddedText 4 value.toNat) ('-' :: rest)
      (fun c => isDecimalDigit_of_mem_paddedText) length_eq.le (.inl length_eq)
      (decimalNumber?_paddedText _ _)
    obtain ⟨c, row, text_eq, digit⟩ := exists_cons_paddedText 4 value.toNat
    rw [year, trimFront_paddedText]
    rw [text_eq, List.cons_append] at read ⊢
    split
    · rename_i same
      obtain rfl := (List.cons.inj same).1
      exact absurd digit (by decide)
    · rename_i same
      obtain rfl := (List.cons.inj same).1
      exact absurd digit (by decide)
    · simp only [read, Option.map_some, toNat_eq]
  · have read : digits (paddedText 4 value.natAbs ++ '-' :: rest).length
        (paddedText 4 value.natAbs ++ '-' :: rest) = some (value.natAbs, '-' :: rest) :=
      digits_append (fun c => isDecimalDigit_of_mem_paddedText) (by simp)
        (.inr (by simp [hyphen])) (decimalNumber?_paddedText _ _)
    split
    · have value_eq : -(value.natAbs : Int) = value := by omega
      rw [List.cons_append, year, trimFront_cons (by decide)]
      simp only [read, Option.map_some, value_eq]
    · have value_eq : (value.natAbs : Int) = value := by omega
      rw [List.cons_append, year, trimFront_cons (by decide)]
      simp only [read, Option.map_some, value_eq]

private theorem fraction_paddedText {width value : Nat} (pos : 0 < width) (short : width ≤ 9)
    (small : value < 10 ^ width) (rest : List Char) :
    fraction ('.' :: paddedText width value ++ 'Z' :: rest) =
      some (value * 10 ^ (9 - width), 'Z' :: rest) := by
  have mark_not : isDecimalDigit 'Z' = false := by decide
  have length_eq := length_paddedText pos small
  have row_eq : (paddedText width value ++ 'Z' :: rest).takeWhile isDecimalDigit =
      paddedText width value := by
    rw [List.takeWhile_append_of_pos fun c => isDecimalDigit_of_mem_paddedText]
    simp [mark_not]
  have counted_eq : (paddedText width value).take 9 = paddedText width value :=
    List.take_of_length_le (length_eq.trans_le short)
  simp [fraction, row_eq, counted_eq, decimalNumber?_paddedText, length_eq]

private theorem fraction_fractionText {nano : Nat} (small : nano < secondNanos) (rest : List Char) :
    fraction (fractionText nano ++ 'Z' :: rest) = some (nano, 'Z' :: rest) := by
  unfold secondNanos at small
  unfold fractionText
  split
  · rename_i zero
    simp [fraction, zero]
  split
  · rename_i whole
    rw [fraction_paddedText (by decide) (by decide) (by omega)]
    exact congrArg (fun value => some (value, _)) (by omega)
  split
  · rename_i whole
    rw [fraction_paddedText (by decide) (by decide) (by omega)]
    exact congrArg (fun value => some (value, _)) (by omega)
  · rw [fraction_paddedText (by decide) (by decide) (by omega)]
    exact congrArg (fun value => some (value, _)) (by omega)

/-- The text of a date and a time of day in universal time. -/
def written (yearNumber : Int) (month day hour minute second nano : Nat) : String :=
  String.ofList
    (Date.yearText yearNumber ++ '-' :: paddedText 2 month ++ '-' :: paddedText 2 day ++
      'T' :: paddedText 2 hour ++ ':' :: paddedText 2 minute ++ ':' :: paddedText 2 second ++
      fractionText nano ++ ['Z'])

/-- Fields that fit into their digits are read again. -/
theorem ofString?_written (yearNumber : Int) {month day hour minute second nano : Nat}
    (month_lt : month < 100) (day_lt : day < 100) (hour_lt : hour < 100) (minute_lt : minute < 100)
    (second_lt : second < 100) (nano_lt : nano < secondNanos) :
    ofString? (written yearNumber month day hour minute second nano) =
      (Date.ofFields? yearNumber month day).bind fun date =>
        ofParts? date hour minute second nano 0 := by
  have hyphen (rest) := @mark_cons '-' (by decide) rest
  have colon (rest) := @mark_cons ':' (by decide) rest
  have zone : trimFront ['Z'] = ['Z'] := by decide
  have universal : offset ['Z'] = some (0, []) := by decide
  simp only [written, ofString?, String.toList_ofList, List.append_assoc, List.cons_append,
    year_yearText, bind, Option.bind_some, hyphen, field_paddedText month_lt,
    field_paddedText day_lt, separator, true_or, if_true, field_paddedText hour_lt, colon,
    field_paddedText minute_lt, field_paddedText second_lt, fraction_fractionText nano_lt, zone,
    universal]
  simp [trimFront]

/-! ### Moments in range -/

/-- The fields of a moment are in range, and only the last second of a minute is a leap second. -/
structure Valid (moment : Timestamp) : Prop where
  /-- The date is a day of the calendar. -/
  date : moment.date.isValid = true
  /-- The second is one of the day. -/
  second : moment.second < daySeconds
  /-- Nanoseconds run past the end only of the last second of a minute. -/
  nano : moment.nano < secondNanos ∨
    moment.nano < 2 * secondNanos ∧ moment.second % 60 = 59

private theorem isValid_of_ofFields? {yearNumber : Int} {month day : Nat} {date : Date}
    (read : Date.ofFields? yearNumber month day = some date) : date.isValid = true := by
  unfold Date.ofFields? at read
  dsimp only at read
  split at read
  · obtain rfl := Option.some.inj read
    assumption
  · exact nomatch read

private theorem daysInMonth_le (yearNumber : Int) (month : Nat) :
    daysInMonth yearNumber month ≤ 31 := by
  unfold daysInMonth
  split_ifs <;> decide

private theorem Valid.ofParts?_eq {moment : Timestamp} (valid : moment.Valid) {leap : Nat}
    (leap_eq : leap = if secondNanos ≤ moment.nano then 1 else 0) :
    ofParts? moment.date (moment.second / 3600) (moment.second / 60 % 60)
      (moment.second % 60 + leap) (moment.nano - leap * secondNanos) 0 = some moment := by
  obtain ⟨date, second, nano⟩ := moment
  obtain ⟨-, second_lt, nano_bounds⟩ := valid
  dsimp only at leap_eq second_lt nano_bounds ⊢
  have day_eq : daySeconds = 86400 := rfl
  have leap_iff : (if second % 60 + leap = 60 then 1 else 0) = leap := by
    split_ifs at leap_eq ⊢ <;> omega
  have nano_eq : nano - leap * secondNanos + leap * secondNanos = nano := by
    split_ifs at leap_eq <;> subst leap_eq <;> omega
  have second_eq : second / 3600 * 3600 + second / 60 % 60 * 60 + (second % 60 + leap - leap) =
      second := by
    omega
  have in_range : second / 3600 < 24 ∧ second / 60 % 60 < 60 ∧ second % 60 + leap ≤ 60 ∧
      (0 : Int).natAbs < daySeconds := by
    refine ⟨?_, ?_, ?_, by decide⟩ <;> split_ifs at leap_eq <;> omega
  have same_day : ¬(second : Int) - 0 < 0 ∧ ¬(daySeconds : Int) ≤ (second : Int) - 0 := by omega
  rw [ofParts?, if_pos in_range]
  dsimp only
  rw [leap_iff, second_eq, nano_eq, ofLocal?, if_neg same_day.1, if_neg same_day.2]
  simp

/-- The written form of a moment in range reads back. -/
theorem Valid.ofString?_toString {moment : Timestamp} (valid : moment.Valid) :
    ofString? moment.toString = some moment := by
  obtain ⟨leap, leap_eq⟩ : ∃ leap, leap = if secondNanos ≤ moment.nano then 1 else 0 := ⟨_, rfl⟩
  have second_lt : moment.second < 86400 := valid.second
  have last_lt : moment.second % 60 + leap < 100 := by split_ifs at leap_eq <;> omega
  have nano_lt : moment.nano - leap * secondNanos < secondNanos := by
    have bounds := valid.nano
    split_ifs at leap_eq <;> subst leap_eq <;> omega
  have date_eq : Date.ofFields? moment.date.year moment.date.month moment.date.day =
      some moment.date := if_pos valid.date
  have days := daysInMonth_le moment.date.year moment.date.month
  have bounds := valid.date
  simp only [Date.isValid, Bool.and_eq_true, decide_eq_true_eq] at bounds
  have text_eq : moment.toString = written moment.date.year moment.date.month moment.date.day
      (moment.second / 3600) (moment.second / 60 % 60) (moment.second % 60 + leap)
      (moment.nano - leap * secondNanos) := by
    rw [leap_eq]
    rfl
  rw [text_eq, ofString?_written _ (by omega) (by omega) (by omega) (by omega) last_lt nano_lt,
    date_eq, Option.bind_some, valid.ofParts?_eq leap_eq]

/-! ### What is read is in range -/

private theorem fraction_lt {text rest : List Char} {nano : Nat}
    (read : fraction text = some (nano, rest)) : nano < secondNanos := by
  unfold fraction at read
  split at read
  · rename_i tail
    obtain ⟨value, value_read, pair_eq⟩ := Option.bind_eq_some_iff.1 read
    obtain ⟨rfl, -⟩ := Prod.mk.inj (Option.some.inj pair_eq)
    have short := List.length_take_le 9 (tail.takeWhile isDecimalDigit)
    calc
      _ < 10 ^ ((tail.takeWhile isDecimalDigit).take 9).length * 10 ^ (9 - _) :=
        Nat.mul_lt_mul_of_pos_right (decimalNumber?_lt value_read) (Nat.pow_pos (by decide))
      _ = 10 ^ 9 := by rw [← pow_add, Nat.add_sub_cancel' short]
      _ = secondNanos := rfl
  · obtain ⟨rfl, -⟩ := Prod.mk.inj (Option.some.inj read)
    exact Nat.succ_pos _

private theorem offsetAmount_mod {text rest : List Char} {seconds : Nat}
    (read : offsetAmount text = some (seconds, rest)) : seconds % 60 = 0 := by
  obtain ⟨⟨hours, text⟩, -, read⟩ := Option.bind_eq_some_iff.1 read
  obtain ⟨⟨minutes, text⟩, -, read⟩ := Option.bind_eq_some_iff.1 read
  dsimp only at read
  split at read
  · obtain ⟨rfl, -⟩ := Prod.mk.inj (Option.some.inj read)
    omega
  · exact nomatch read

private theorem offset_mod {text rest : List Char} {seconds : Int}
    (read : offset text = some (seconds, rest)) : seconds % 60 = 0 := by
  have amount {row : List Char} {sign : Nat × List Char → Int × List Char}
      (read : (offsetAmount row).map sign = some (seconds, rest))
      (whole : ∀ value rest, value % 60 = 0 → (sign (value, rest)).1 % 60 = 0) :
      seconds % 60 = 0 := by
    obtain ⟨⟨value, tail⟩, value_read, signed⟩ := Option.map_eq_some_iff.1 read
    have := whole value tail (offsetAmount_mod value_read)
    rwa [signed] at this
  unfold offset at read
  split at read
  · obtain ⟨rfl, -⟩ := Prod.mk.inj (Option.some.inj read)
    rfl
  · split at read
    · obtain ⟨rfl, -⟩ := Prod.mk.inj (Option.some.inj read)
      rfl
    · obtain ⟨rfl, -⟩ := Prod.mk.inj (Option.some.inj read)
      rfl
    · exact amount read fun value _ whole => by dsimp only; omega
    · exact amount read fun value _ whole => by dsimp only; omega
    · exact amount read fun value _ whole => by dsimp only; omega
    · exact nomatch read

private theorem isValid_of_next? {date next : Date} (read : date.next? = some next) :
    next.isValid = true := by
  simp only [Date.next?, Option.or_eq_some_iff] at read
  rcases read with same_month | ⟨-, next_month | ⟨-, next_year⟩⟩
  exacts [isValid_of_ofFields? same_month, isValid_of_ofFields? next_month,
    isValid_of_ofFields? next_year]

private theorem isValid_of_previous? {date previous : Date}
    (read : date.previous? = some previous) :
    previous.isValid = true := by
  unfold Date.previous? at read
  split_ifs at read <;> exact isValid_of_ofFields? read

private theorem valid_of_ofLocal? {date : Date} {second nano : Nat} {seconds : Int}
    (local_valid : Valid ⟨date, second, nano⟩) (whole : seconds % 60 = 0)
    (within : seconds.natAbs < daySeconds) {moment : Timestamp}
    (read : ofLocal? date second nano seconds = some moment) : moment.Valid := by
  obtain ⟨date_valid, second_lt, nano_bounds⟩ := local_valid
  have day_eq : daySeconds = 86400 := rfl
  dsimp only at second_lt nano_bounds
  unfold ofLocal? at read
  dsimp only at read
  split at read
  · obtain ⟨before, before_eq, rfl⟩ := Option.map_eq_some_iff.1 read
    refine ⟨isValid_of_previous? before_eq, ?_, nano_bounds.imp_right (.imp_right ?_)⟩ <;>
      dsimp only <;> omega
  split at read
  · obtain ⟨after, after_eq, rfl⟩ := Option.map_eq_some_iff.1 read
    refine ⟨isValid_of_next? after_eq, ?_, nano_bounds.imp_right (.imp_right ?_)⟩ <;>
      dsimp only <;> omega
  · obtain rfl := Option.some.inj read
    refine ⟨date_valid, ?_, nano_bounds.imp_right (.imp_right ?_)⟩ <;> dsimp only <;> omega

private theorem valid_of_ofParts? {date : Date} {hour minute second nano : Nat} {seconds : Int}
    (date_valid : date.isValid = true) (nano_lt : nano < secondNanos) (whole : seconds % 60 = 0)
    {moment : Timestamp} (read : ofParts? date hour minute second nano seconds = some moment) :
    moment.Valid := by
  have day_eq : daySeconds = 86400 := rfl
  by_cases in_range : hour < 24 ∧ minute < 60 ∧ second ≤ 60 ∧ seconds.natAbs < daySeconds
  · rw [ofParts?, if_pos in_range] at read
    refine valid_of_ofLocal? ⟨date_valid, ?_, ?_⟩ whole in_range.2.2.2 read <;> dsimp only <;>
      split_ifs <;> omega
  · rw [ofParts?, if_neg in_range] at read
    exact nomatch read

/-- A moment that was read is in range. -/
theorem valid_of_ofString? {text : String} {moment : Timestamp}
    (read : ofString? text = some moment) : moment.Valid := by
  obtain ⟨⟨yearNumber, text⟩, -, read⟩ := Option.bind_eq_some_iff.1 read
  obtain ⟨⟨⟨⟩, text⟩, -, read⟩ := Option.bind_eq_some_iff.1 read
  obtain ⟨⟨month, text⟩, -, read⟩ := Option.bind_eq_some_iff.1 read
  obtain ⟨⟨⟨⟩, text⟩, -, read⟩ := Option.bind_eq_some_iff.1 read
  obtain ⟨⟨day, text⟩, -, read⟩ := Option.bind_eq_some_iff.1 read
  obtain ⟨⟨⟨⟩, text⟩, -, read⟩ := Option.bind_eq_some_iff.1 read
  obtain ⟨⟨hour, text⟩, -, read⟩ := Option.bind_eq_some_iff.1 read
  obtain ⟨⟨⟨⟩, text⟩, -, read⟩ := Option.bind_eq_some_iff.1 read
  obtain ⟨⟨minute, text⟩, -, read⟩ := Option.bind_eq_some_iff.1 read
  obtain ⟨⟨⟨⟩, text⟩, -, read⟩ := Option.bind_eq_some_iff.1 read
  obtain ⟨⟨second, text⟩, -, read⟩ := Option.bind_eq_some_iff.1 read
  obtain ⟨⟨nano, text⟩, nano_read, read⟩ := Option.bind_eq_some_iff.1 read
  obtain ⟨⟨seconds, text⟩, offset_read, read⟩ := Option.bind_eq_some_iff.1 read
  dsimp only at read
  split at read
  · obtain ⟨date, date_read, read⟩ := Option.bind_eq_some_iff.1 read
    exact valid_of_ofParts? (isValid_of_ofFields? date_read) (fraction_lt nano_read)
      (offset_mod offset_read) read
  · exact nomatch read

/-- A moment that was read is read again from its written form. -/
theorem ofString?_toString_of_ofString? {text : String} {moment : Timestamp}
    (read : ofString? text = some moment) : ofString? moment.toString = some moment :=
  (valid_of_ofString? read).ofString?_toString

end Timestamp
end Workflow
