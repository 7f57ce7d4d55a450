import Mathlib.Data.List.TakeWhile
import Pipewright.Report.Timestamp

/-!
# Moments are read back

The text of a moment in the years that moments may have is read as that moment
(`Timestamp.parse_text`): its year stands after a sign where it takes more than four digits, its
other numbers have as many digits as the reader takes, and its fraction is read as so many
nanoseconds, however many digits it was given. Whatever text is read as a moment,
it is one of a calendar and a clock (`Timestamp.isMoment_of_parse`), also where the offset of its
zone takes it to the day before or after.
-/
namespace Pipewright

/-- Whether there is such a day in a calendar without end. -/
structure Date.IsDay (d : Date) : Prop where
  /-- The month is one of twelve. -/
  month : 1 ≤ d.month ∧ d.month ≤ 12
  /-- The day is one of its month. -/
  day : 1 ≤ d.day ∧ d.day ≤ daysInMonth d.year d.month

namespace Timestamp

/-- Whether there is such a moment. -/
structure IsMoment (t : Timestamp) : Prop where
  /-- Its date is one. -/
  date : t.date.IsDay
  /-- Its hour is one of a day. -/
  hour : t.hour < 24
  /-- Its minute is one of an hour. -/
  minute : t.minute < 60
  /-- Its second is one of a minute, which may have a leap second. -/
  second : t.second ≤ 60
  /-- Its nanoseconds are less than a second. -/
  nano : t.nano < Nat.pow 10 9

/-- Whether the year of a moment takes four digits and no sign. -/
def HasPlainYear (t : Timestamp) : Prop := 0 ≤ t.date.year ∧ t.date.year ≤ 9999

/-! ## Days -/

/-- A month has a day and at most 31 of them. -/
theorem daysInMonth_bounds (year : Int) (month : Nat) :
    1 ≤ daysInMonth year month ∧ daysInMonth year month ≤ 31 := by
  unfold daysInMonth
  split
  · split <;> decide
  · split <;> decide

/-- The day after a day is a day. -/
theorem isDay_next {d : Date} (isDay : d.IsDay) : d.next.IsDay := by
  obtain ⟨⟨firstMonth, lastMonth⟩, firstDay, lastDay⟩ := isDay
  unfold Date.next
  split
  · rename_i early
    exact ⟨⟨firstMonth, lastMonth⟩, by simp, Nat.succ_le_of_lt early⟩
  · split
    · rename_i early
      exact ⟨⟨by simp, Nat.succ_le_of_lt early⟩, by simp, (daysInMonth_bounds _ _).1⟩
    · exact ⟨by simp, by simp, (daysInMonth_bounds _ _).1⟩

/-- The day before a day is a day. -/
theorem isDay_previous {d : Date} (isDay : d.IsDay) : d.previous.IsDay := by
  obtain ⟨⟨firstMonth, lastMonth⟩, firstDay, lastDay⟩ := isDay
  unfold Date.previous
  split
  · refine ⟨⟨firstMonth, lastMonth⟩, ?_, ?_⟩
    · show 1 ≤ d.day - 1
      omega
    · show d.day - 1 ≤ daysInMonth d.year d.month
      omega
  · split
    · refine ⟨⟨?_, ?_⟩, (daysInMonth_bounds _ _).1, Nat.le_refl _⟩
      · show 1 ≤ d.month - 1
        omega
      · show d.month - 1 ≤ 12
        omega
    · exact ⟨by simp, by simp, by simp [daysInMonth]⟩

/-! ## Numbers -/

/-- The digits are the characters from U+0030 to U+0039. -/
theorem toNat_of_isDigit {c : Char} (isDigit : c.isDigit = true) : 48 ≤ c.toNat ∧ c.toNat ≤ 57 := by
  simp only [Char.isDigit, Bool.and_eq_true, decide_eq_true_eq, ge_iff_le,
    UInt32.le_iff_toNat_le] at isDigit
  exact isDigit

/-- A digit is no blank. -/
theorem isBlankChar_digit {c : Char} (isDigit : c.isDigit = true) : isBlankChar c = false := by
  obtain ⟨least, most⟩ := toNat_of_isDigit isDigit
  simp only [isBlankChar, Bool.or_eq_false_iff, Bool.and_eq_false_iff, decide_eq_false_iff_not,
    beq_eq_false_iff_ne]
  omega

/-- Where no blank stands nothing is skipped. -/
theorem skipBlanks_cons {c : Char} (solid : isBlankChar c = false) (rest : List Char) :
    skipBlanks (c :: rest) = c :: rest :=
  List.dropWhile_cons_of_neg (by simp [solid])

/-- A mark that is no blank is taken where it stands. -/
theorem takeMark_self {mark : Char} (solid : isBlankChar mark = false) (rest : List Char) :
    takeMark mark (mark :: rest) = some rest := by
  rw [takeMark, skipBlanks_cons solid]
  exact if_pos rfl

variable {width n : Nat}

/-- A padded number has digits only. -/
theorem isDigit_of_mem_padded {c : Char} (member : c ∈ padded width n) : c.isDigit = true := by
  rcases List.mem_append.mp member with zero | digit
  · exact List.eq_of_mem_replicate zero ▸ rfl
  · exact Nat.isDigit_of_mem_toDigits (by decide) (by decide) digit

/-- A padded number that fits has as many digits as were wanted. -/
theorem length_padded (positive : 0 < width) (fits : n < Nat.pow 10 width) :
    (padded width n).length = width := by
  have short := (Nat.length_toDigits_le_iff (by decide) positive).mpr fits
  rw [padded, List.length_append, List.length_replicate]
  omega

/-- A padded number is the number. -/
theorem ofDigitChars_padded (width n : Nat) : Nat.ofDigitChars 10 (padded width n) 0 = n := by
  rw [padded, Nat.ofDigitChars_append, Nat.ofDigitChars_replicate_zero, Nat.mul_zero,
    Nat.ofDigitChars_ten_toDigits]

/-- A padded number starts with a digit. -/
theorem exists_padded (width n : Nat) :
    ∃ d digits, padded width n = d :: digits ∧ d.isDigit = true := by
  have nonempty : padded width n ≠ [] :=
    List.append_ne_nil_of_right_ne_nil _ Nat.toDigits_ne_nil
  obtain ⟨d, digits, split⟩ := List.exists_cons_of_ne_nil nonempty
  exact ⟨d, digits, split, isDigit_of_mem_padded (split ▸ List.mem_cons_self)⟩

/-- No blank stands before a padded number. -/
theorem skipBlanks_padded (width n : Nat) (rest : List Char) :
    skipBlanks (padded width n ++ rest) = padded width n ++ rest := by
  obtain ⟨d, digits, split, isDigit⟩ := exists_padded width n
  rw [split]
  exact skipBlanks_cons (isBlankChar_digit isDigit) _

/-- A padded number is taken where its digits are all that is seen of digits. -/
theorem takeNumber_of_takeWhile {most : Nat} {rest : List Char}
    (digits : ((padded width n ++ rest).take most).takeWhile Char.isDigit = padded width n) :
    takeNumber most (padded width n ++ rest) = some (n, rest) := by
  have nonempty : (padded width n).isEmpty = false := by
    obtain ⟨d, more, split, -⟩ := exists_padded width n
    rw [split]
    rfl
  simp [takeNumber, digits, nonempty, ofDigitChars_padded]

/-- A padded number that fits is taken, whatever follows it. -/
theorem takeNumber_padded (positive : 0 < width) (fits : n < Nat.pow 10 width) (rest : List Char) :
    takeNumber width (padded width n ++ rest) = some (n, rest) := by
  have length := length_padded positive fits
  apply takeNumber_of_takeWhile
  rw [List.take_left' length, List.takeWhile_eq_self_iff]
  exact fun c member => isDigit_of_mem_padded member

/-- A padded number is taken up to a mark by a reader that could take more. -/
theorem takeNumber_padded_mark {mark : Char} (ends : mark.isDigit = false) (rest : List Char) :
    takeNumber (padded width n ++ mark :: rest).length (padded width n ++ mark :: rest) =
      some (n, mark :: rest) := by
  apply takeNumber_of_takeWhile
  rw [List.take_length, List.takeWhile_append_of_pos fun c member => isDigit_of_mem_padded member,
    List.takeWhile_cons_of_neg (by simp [ends]), List.append_nil]

/-- A number of two digits is taken after its blanks, of which there are none. -/
theorem takeNumber_two (small : n < 100) (rest : List Char) :
    takeNumber 2 (skipBlanks (padded 2 n ++ rest)) = some (n, rest) := by
  rw [skipBlanks_padded]
  exact takeNumber_padded (by decide) small rest

/-- A year that takes four digits is taken, whatever follows it. -/
theorem takeYear_plain {year : Int} (plain : 0 ≤ year ∧ year ≤ 9999) (rest : List Char) :
    takeYear (yearText year ++ rest) = some (year, rest) := by
  have written : yearText year = padded 4 year.natAbs := if_pos (by simpa using plain)
  have fits : year.natAbs < Nat.pow 10 4 := show year.natAbs < 10000 by omega
  have taken := takeNumber_padded (by decide) fits rest
  have whole : (year.natAbs : Int) = year := by omega
  obtain ⟨d, digits, split, isDigit⟩ := exists_padded 4 year.natAbs
  rw [written, takeYear, skipBlanks_padded]
  rw [split, List.cons_append] at taken ⊢
  split
  · rename_i minus
    cases (List.cons.inj minus).1 ▸ isDigit
  · rename_i plus
    cases (List.cons.inj plus).1 ▸ isDigit
  · simp [taken, whole]

/-- Any year is taken up to the hyphen after it, with a sign where it takes one. -/
theorem takeYear_yearText (year : Int) (rest : List Char) :
    takeYear (yearText year ++ '-' :: rest) = some (year, '-' :: rest) := by
  by_cases plain : 0 ≤ year ∧ year ≤ 9999
  · exact takeYear_plain plain _
  · have written : yearText year = (if year < 0 then '-' else '+') :: padded 4 year.natAbs :=
      if_neg (by simpa using plain)
    have taken : takeNumber (padded 4 year.natAbs ++ '-' :: rest).length
        (padded 4 year.natAbs ++ '-' :: rest) = some (year.natAbs, '-' :: rest) :=
      takeNumber_padded_mark (by decide) rest
    have minus : isBlankChar '-' = false := by decide
    have plus : isBlankChar '+' = false := by decide
    rw [written]
    by_cases negative : year < 0
    · have whole : -(year.natAbs : Int) = year := by omega
      rw [if_pos negative, List.cons_append, takeYear, skipBlanks_cons minus]
      simp only [taken, Option.map_some, whole]
    · have whole : (year.natAbs : Int) = year := by omega
      rw [if_neg negative, List.cons_append, takeYear, skipBlanks_cons plus]
      simp only [taken, Option.map_some, whole]

/-! ## Fractions -/

/-- Digits after a point are taken as so many nanoseconds, up to the zone. -/
theorem takeFraction_padded (positive : 0 < width) (few : width ≤ 9)
    (fits : n < Nat.pow 10 width) :
    takeFraction ('.' :: (padded width n ++ ['Z'])) = some (n * Nat.pow 10 (9 - width), ['Z']) := by
  have length := length_padded positive fits
  have digits : (padded width n ++ ['Z']).takeWhile Char.isDigit = padded width n := by
    rw [List.takeWhile_append_of_pos fun c member => isDigit_of_mem_padded member]
    exact List.append_nil _
  have kept : (padded width n).take 9 = padded width n := List.take_of_length_le (by omega)
  have nonempty : (padded width n).isEmpty = false := by
    obtain ⟨d, more, split, -⟩ := exists_padded width n
    rw [split]
    rfl
  have left : (padded width n ++ ['Z']).drop width = ['Z'] := List.drop_left' length
  simp only [takeFraction, digits, nonempty, kept, ofDigitChars_padded, length, left,
    Bool.false_eq_true, if_false]

/-- The fraction of a moment is taken as its nanoseconds. -/
theorem takeFraction_fractionText {nano : Nat} (small : nano < Nat.pow 10 9) :
    takeFraction (fractionText nano ++ ['Z']) = some (nano, ['Z']) := by
  have small : nano < 1000000000 := small
  unfold fractionText
  split
  · rename_i zero
    rw [eq_of_beq zero]
    rfl
  · split
    · rename_i millis
      have whole : nano % 1000000 = 0 := eq_of_beq millis
      have fits : nano / 1000000 < Nat.pow 10 3 := show nano / 1000000 < 1000 by omega
      rw [List.cons_append, takeFraction_padded (by decide) (by decide) fits]
      show some (nano / 1000000 * 1000000, _) = _
      rw [show nano / 1000000 * 1000000 = nano by omega]
    · split
      · rename_i micros
        have whole : nano % 1000 = 0 := eq_of_beq micros
        have fits : nano / 1000 < Nat.pow 10 6 := show nano / 1000 < 1000000 by omega
        rw [List.cons_append, takeFraction_padded (by decide) (by decide) fits]
        show some (nano / 1000 * 1000, _) = _
        rw [show nano / 1000 * 1000 = nano by omega]
      · rw [List.cons_append, takeFraction_padded (by decide) (by decide) small]
        show some (nano * 1, _) = _
        rw [Nat.mul_one]

/-- Digits are a number below the power of ten of their count. -/
theorem ofDigitChars_lt {digits : List Char} (areDigits : ∀ c ∈ digits, c.isDigit = true)
    (n : Nat) : Nat.ofDigitChars 10 digits n < (n + 1) * Nat.pow 10 digits.length := by
  induction digits generalizing n with
  | nil => simp [Nat.ofDigitChars]
  | cons d digits ih =>
    obtain ⟨isDigit, later⟩ := List.forall_mem_cons.mp areDigits
    have value : d.toNat - '0'.toNat ≤ 9 := by
      have most : d.toNat ≤ 57 := (toNat_of_isDigit isDigit).2
      show d.toNat - 48 ≤ 9
      omega
    calc Nat.ofDigitChars 10 (d :: digits) n
        = Nat.ofDigitChars 10 digits (10 * n + (d.toNat - '0'.toNat)) := Nat.ofDigitChars_cons
      _ < (10 * n + (d.toNat - '0'.toNat) + 1) * Nat.pow 10 digits.length := ih later _
      _ ≤ 10 * (n + 1) * Nat.pow 10 digits.length := Nat.mul_le_mul_right _ (by omega)
      _ = (n + 1) * (Nat.pow 10 digits.length * 10) := by
        rw [Nat.mul_comm 10, Nat.mul_assoc, Nat.mul_comm 10]

/-- A fraction is less than a second. -/
theorem nano_of_takeFraction {cs rest : List Char} {nano : Nat}
    (taken : takeFraction cs = some (nano, rest)) : nano < Nat.pow 10 9 := by
  unfold takeFraction at taken
  split at taken
  · rename_i digits
    dsimp only at taken
    split at taken
    · cases taken
    · obtain ⟨rfl, -⟩ := Prod.mk.inj (Option.some.inj taken)
      have few : ((digits.takeWhile Char.isDigit).take 9).length ≤ 9 := List.length_take_le _ _
      have areDigits : ∀ c ∈ (digits.takeWhile Char.isDigit).take 9, c.isDigit = true :=
        fun c member => List.mem_takeWhile_imp (List.mem_of_mem_take member)
      generalize (digits.takeWhile Char.isDigit).take 9 = kept at few areDigits
      have below := ofDigitChars_lt areDigits 0
      calc Nat.ofDigitChars 10 kept 0 * Nat.pow 10 (9 - kept.length)
          < (0 + 1) * Nat.pow 10 kept.length * Nat.pow 10 (9 - kept.length) :=
            Nat.mul_lt_mul_of_pos_right below (Nat.pow_pos (by decide))
        _ = Nat.pow 10 kept.length * Nat.pow 10 (9 - kept.length) := by
            rw [Nat.zero_add, Nat.one_mul]
        _ = Nat.pow 10 (kept.length + (9 - kept.length)) := (Nat.pow_add ..).symm
        _ = Nat.pow 10 9 := by rw [Nat.add_sub_cancel' few]
  · obtain ⟨rfl, -⟩ := Prod.mk.inj (Option.some.inj taken)
    decide

/-! ## Moments -/

/-- A moment at UTC is itself. -/
theorem ofLocal_zero (date : Date) {hour minute : Nat} (second nano : Nat) (hourSmall : hour < 24)
    (minuteSmall : minute < 60) :
    ofLocal date hour minute second nano 0 = ⟨date, hour, minute, second, nano⟩ := by
  unfold ofLocal
  rw [if_neg (by omega), if_pos (by omega)]
  congr 1 <;> omega

/-- The moment of a date after which characters go on with a time of day and a zone. -/
def takeClock (date : Date) (cs : List Char) : Option Timestamp := do
  let (hour, rest) ← takeNumber 2 (skipBlanks cs)
  let rest ← takeMark ':' rest
  let (minute, rest) ← takeNumber 2 (skipBlanks rest)
  let rest ← takeMark ':' rest
  let (second, rest) ← takeNumber 2 (skipBlanks rest)
  let (nano, rest) ← takeFraction rest
  let (offset, rest) ← takeZone (skipBlanks rest)
  if (skipBlanks rest).isEmpty && date.isValid && hour < 24 && minute < 60 && second ≤ 60 then
    some (ofLocal date hour minute second nano offset)
  else none

/-- The time of day of a moment and its zone, as they are written. -/
def clockChars (t : Timestamp) : List Char :=
  padded 2 t.hour ++ ':' :: (padded 2 t.minute ++ ':' :: (padded 2 t.second ++
    (fractionText t.nano ++ ['Z'])))

/-- A moment is written as its date and its time of day. -/
theorem chars_eq (t : Timestamp) :
    t.chars = yearText t.date.year ++ '-' :: (padded 2 t.date.month ++ '-' ::
      (padded 2 t.date.day ++ 'T' :: t.clockChars)) := by
  simp only [chars, clockChars, List.append_assoc, List.cons_append]

/-- The time of day of a moment is taken after its date. -/
theorem takeClock_clockChars {t : Timestamp} (isMoment : t.IsMoment)
    (valid : t.date.isValid = true) : takeClock t.date t.clockChars = some t := by
  obtain ⟨date, hour, minute, second, nano⟩ := t
  obtain ⟨-, hours, minutes, seconds, nanos⟩ := isMoment
  dsimp only at hours minutes seconds nanos valid
  have zone : takeZone (skipBlanks ['Z']) = some (0, []) := rfl
  have ended : (skipBlanks []).isEmpty = true := rfl
  simp only [takeClock, clockChars, takeNumber_two (show hour < 100 by omega),
    takeNumber_two (show minute < 100 by omega), takeNumber_two (show second < 100 by omega),
    takeMark_self (show isBlankChar ':' = false by decide), takeFraction_fractionText nanos, zone,
    ended, valid, hours, minutes, seconds, Option.bind_eq_bind, Option.bind_some, decide_true,
    Bool.and_self, if_true, ofLocal_zero _ _ _ hours minutes]

/-- The text of a moment in the years that moments may have is read as that moment. -/
theorem parse_text {t : Timestamp} (isMoment : t.IsMoment) (valid : t.date.isValid = true) :
    parse t.text = some t := by
  obtain ⟨months, days⟩ := isMoment.date
  have fewDays := (daysInMonth_bounds t.date.year t.date.month).2
  have hyphen : isBlankChar '-' = false := by decide
  rw [parse, text, String.toList_ofList, chars_eq]
  refine Option.bind_eq_some_iff.mpr ⟨_, takeYear_yearText _ _, ?_⟩
  refine Option.bind_eq_some_iff.mpr ⟨_, takeMark_self hyphen _, ?_⟩
  refine Option.bind_eq_some_iff.mpr ⟨_, takeNumber_two (by omega) _, ?_⟩
  refine Option.bind_eq_some_iff.mpr ⟨_, takeMark_self hyphen _, ?_⟩
  refine Option.bind_eq_some_iff.mpr ⟨_, takeNumber_two (by omega) _, ?_⟩
  exact takeClock_clockChars isMoment valid

/-- A plain year is one that moments may have. -/
theorem isValid_of_hasPlainYear {t : Timestamp} (isMoment : t.IsMoment) (plain : t.HasPlainYear) :
    t.date.isValid = true := by
  obtain ⟨months, days⟩ := isMoment.date
  obtain ⟨early, late⟩ := plain
  simp only [Date.isValid, Bool.and_eq_true, decide_eq_true_eq]
  omega

/-- An offset is less than a day. -/
theorem offset_of_takeOffset {cs rest : List Char} {offset : Int}
    (taken : takeOffset cs = some (offset, rest)) : -1440 < offset ∧ offset < 1440 := by
  unfold takeOffset at taken
  split at taken
  · cases taken
    decide
  · cases taken
    decide
  · split at taken
    · obtain ⟨⟨hours, afterHours⟩, -, taken⟩ := Option.bind_eq_some_iff.mp taken
      obtain ⟨⟨minutes, afterMinutes⟩, -, taken⟩ := Option.bind_eq_some_iff.mp taken
      dsimp only at taken
      split at taken
      · rename_i small
        simp only [Bool.and_eq_true, decide_eq_true_eq] at small
        obtain ⟨same, -⟩ := Prod.mk.inj (Option.some.inj taken)
        split at same <;> omega
      · cases taken
    · cases taken
  · cases taken

/-- An offset is less than a day, also where the zone is named. -/
theorem offset_of_takeZone {cs rest : List Char} {offset : Int}
    (taken : takeZone cs = some (offset, rest)) : -1440 < offset ∧ offset < 1440 := by
  unfold takeZone at taken
  split at taken
  · split at taken
    · cases taken
      decide
    · exact offset_of_takeOffset taken
  · exact offset_of_takeOffset taken

/-- A local date and time at an offset of less than a day is a moment. -/
theorem isMoment_ofLocal {date : Date} {hour minute second nano : Nat} {offset : Int}
    (isDay : date.IsDay) (hours : hour < 24) (minutes : minute < 60) (seconds : second ≤ 60)
    (nanos : nano < Nat.pow 10 9) (small : -1440 < offset ∧ offset < 1440) :
    (ofLocal date hour minute second nano offset).IsMoment := by
  unfold ofLocal
  dsimp only
  split
  · refine ⟨isDay_previous isDay, ?_, ?_, seconds, nanos⟩ <;> dsimp only <;> omega
  · split
    · refine ⟨isDay, ?_, ?_, seconds, nanos⟩ <;> dsimp only <;> omega
    · refine ⟨isDay_next isDay, ?_, ?_, seconds, nanos⟩ <;> dsimp only <;> omega

/-- A date with a time of day and a zone is a moment. -/
theorem isMoment_of_takeClock {date : Date} {cs : List Char} {t : Timestamp}
    (read : takeClock date cs = some t) : t.IsMoment := by
  simp only [takeClock, Option.bind_eq_bind, Option.bind_eq_some_iff] at read
  obtain ⟨⟨hour, _⟩, -, _, -, ⟨minute, _⟩, -, _, -, ⟨second, _⟩, -, ⟨nano, _⟩, fraction,
    ⟨offset, _⟩, zone, whole⟩ := read
  split at whole
  · rename_i valid
    simp only [Date.isValid, Bool.and_eq_true, decide_eq_true_eq] at valid
    obtain ⟨⟨⟨⟨-, ⟨⟨⟨-, firstMonth⟩, lastMonth⟩, firstDay⟩, lastDay⟩, hours⟩, minutes⟩,
      seconds⟩ := valid
    rw [← Option.some.inj whole]
    exact isMoment_ofLocal ⟨⟨firstMonth, lastMonth⟩, firstDay, lastDay⟩ hours minutes seconds
      (nano_of_takeFraction fraction) (offset_of_takeZone zone)
  · cases whole

/-- Whatever text is read as a moment, it is one. -/
theorem isMoment_of_parse {text : String} {t : Timestamp} (read : parse text = some t) :
    t.IsMoment := by
  obtain ⟨⟨year, afterYear⟩, -, read⟩ := Option.bind_eq_some_iff.mp read
  obtain ⟨fromMonth, -, read⟩ := Option.bind_eq_some_iff.mp read
  obtain ⟨⟨month, afterMonth⟩, -, read⟩ := Option.bind_eq_some_iff.mp read
  obtain ⟨fromDay, -, read⟩ := Option.bind_eq_some_iff.mp read
  obtain ⟨⟨day, afterDay⟩, -, read⟩ := Option.bind_eq_some_iff.mp read
  dsimp only at read
  split at read
  · exact isMoment_of_takeClock read
  · exact isMoment_of_takeClock read
  · exact isMoment_of_takeClock read
  · cases read

-- An offset takes the first of March back to a leap day.
example : parse "2024-03-01T00:30:00.25+01:00" = some ⟨⟨2024, 2, 29⟩, 23, 30, 0, 250000000⟩ := by
  rfl

end Timestamp

end Pipewright
