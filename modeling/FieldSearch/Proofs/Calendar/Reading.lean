import FieldSearch.Calendar.Reader
import FieldSearch.Calendar.Text
import Mathlib.Algebra.Group.Nat.Defs
import Mathlib.Data.List.TakeWhile

/-!
# Reading dates and times back

A number that is written with zeros before it is read back as far as its digits go, and so is a
year, which is written with a sign where it has more digits than a year without one may have. What
a date, or a date and time, is written as in a document is read back as the same. The form of the
store is read as an operand, which gives the date again, or the date and time to the microsecond.
-/

namespace FieldSearch

namespace Calendar

/-! ### Digits -/

def NoDigit (cs : List Char) : Prop := ∀ c ∈ cs.head?, c.isDigit = false

def NoBlank (cs : List Char) : Prop := ∀ c ∈ cs.head?, Text.isBlank c = false

theorem padded_isDigit {width n : Nat} {c : Char} (hc : c ∈ padded width n) : c.isDigit = true := by
  rcases List.mem_append.mp hc with hc | hc
  · rw [List.eq_of_mem_replicate hc]
    rfl
  · exact Nat.isDigit_of_mem_toDigits (by decide) (by decide) hc

theorem padded_ne_nil (width n : Nat) : padded width n ≠ [] := by
  simp [padded]

theorem padded_length {width n : Nat} (pos : 0 < width) (h : n < 10 ^ width) :
    (padded width n).length = width := by
  have hlength : (Nat.toDigits 10 n).length ≤ width :=
    (Nat.length_toDigits_le_iff (by decide) pos).mpr h
  rw [padded, List.length_append, List.length_replicate]
  omega

theorem padded_value (width n : Nat) : Nat.ofDigitChars 10 (padded width n) 0 = n := by
  rw [padded, Nat.ofDigitChars_append, Nat.ofDigitChars_replicate_zero, Nat.mul_zero,
    Nat.ofDigitChars_ten_toDigits]

theorem not_blank_of_isDigit {c : Char} (h : c.isDigit = true) : Text.isBlank c = false := by
  rw [Char.isDigit_iff_toNat] at h
  have range : 48 ≤ c.toNat ∧ c.toNat ≤ 57 := h
  simp only [Text.isBlank, Text.inRuns, Text.blankRuns, List.any_eq_false, List.forall_mem_cons,
    Text.Run.has, Bool.and_eq_true, decide_eq_true_eq]
  refine ⟨?_, ?_, ?_, ?_, ?_, ?_, ?_, ?_, ?_, ?_, by simp⟩ <;> omega

theorem skipBlanks_eq {cs : List Char} (h : NoBlank cs) : skipBlanks cs = cs := by
  cases cs with
  | nil => rfl
  | cons c rest =>
    have hc : Text.isBlank c = false := h c rfl
    rw [skipBlanks, List.dropWhile_cons, hc]
    rfl

theorem noBlank_padded (width n : Nat) (rest : List Char) : NoBlank (padded width n ++ rest) := by
  cases hdigits : padded width n with
  | nil => exact absurd hdigits (padded_ne_nil width n)
  | cons d digits =>
    intro c hc
    cases hc
    exact not_blank_of_isDigit (padded_isDigit (hdigits ▸ List.mem_cons_self))

theorem NoDigit.take {cs : List Char} (h : NoDigit cs) (n : Nat) : NoDigit (cs.take n) := by
  cases n with
  | zero => simp [NoDigit]
  | succ n =>
    cases cs with
    | nil => simp [NoDigit]
    | cons c rest => exact h

theorem takeWhile_eq_nil {cs : List Char} (stops : NoDigit cs) :
    cs.takeWhile Char.isDigit = [] := by
  cases cs with
  | nil => rfl
  | cons c rest =>
    have hc : c.isDigit = false := stops c rfl
    rw [List.takeWhile_cons, hc]
    rfl

/-- Digits are read as far as they go, or as many as may be read. -/
theorem readNumber_append {most : Nat} {digits rest : List Char}
    (all : ∀ c ∈ digits, c.isDigit = true) (some : digits ≠ []) (fits : digits.length ≤ most)
    (stops : digits.length = most ∨ NoDigit rest) :
    readNumber most (digits ++ rest) = .some (Nat.ofDigitChars 10 digits 0, rest) := by
  have hrest : (rest.take (most - digits.length)).takeWhile Char.isDigit = [] := by
    rcases stops with heq | stops
    · rw [heq, Nat.sub_self, List.take_zero]
      rfl
    · exact takeWhile_eq_nil (stops.take _)
  have hdigits : ((digits ++ rest).take most).takeWhile Char.isDigit = digits := by
    rw [List.take_append, List.take_of_length_le fits, List.takeWhile_append_of_pos all, hrest,
      List.append_nil]
  have hempty : digits.isEmpty = false := by simpa using some
  have hvalue : digits.foldl (fun n c => n * 10 + (c.toNat - 48)) 0 =
      Nat.ofDigitChars 10 digits 0 := by
    simp only [Nat.ofDigitChars_eq_foldl, Nat.mul_comm]
    rfl
  simp only [readNumber, hdigits, hempty, hvalue, List.drop_left, Bool.false_eq_true, if_false]

theorem readNumber_padded {most width n : Nat} (pos : 0 < width) (fits : n < 10 ^ width)
    (within : width ≤ most) {rest : List Char} (stops : width = most ∨ NoDigit rest) :
    readNumber most (padded width n ++ rest) = some (n, rest) := by
  have hlength := padded_length pos fits
  have hread := readNumber_append (fun c => padded_isDigit) (padded_ne_nil width n)
    (hlength.symm ▸ within) (hlength.symm ▸ stops : (padded width n).length = most ∨ NoDigit rest)
  rw [hread, padded_value]

/-- A year is read back, whatever its sign and the number of its digits. -/
theorem readYear_yearText (year : Int) {rest : List Char} (stops : NoDigit rest) :
    readYear (yearText year ++ rest) = some (year, rest) := by
  have signed : ∀ n, readNumber (padded 4 n ++ rest).length (padded 4 n ++ rest) =
      some (n, rest) := by
    intro n
    have fits : (padded 4 n).length ≤ (padded 4 n ++ rest).length := by
      rw [List.length_append]
      exact Nat.le_add_right _ _
    rw [readNumber_append (fun c => padded_isDigit) (padded_ne_nil 4 n) fits (.inr stops),
      padded_value]
  rw [yearText]
  split
  next negative =>
    have hyear : -(year.natAbs : Int) = year := by omega
    simp only [List.cons_append, readYear, signed, Option.map_some, hyear]
  next nonnegative =>
    split
    next short =>
      have hread : readNumber 4 (padded 4 year.natAbs ++ rest) = some (year.natAbs, rest) :=
        readNumber_padded (by decide) (by omega) (by decide) (.inl rfl)
      -- a digit is no sign, so the third branch of the reader is taken
      have unsigned : readYear (padded 4 year.natAbs ++ rest) =
          (readNumber 4 (padded 4 year.natAbs ++ rest)).map
            fun read => ((read.1 : Int), read.2) := by
        cases hdigits : padded 4 year.natAbs with
        | nil => exact absurd hdigits (padded_ne_nil _ _)
        | cons d digits =>
          have hd : d.isDigit = true := padded_isDigit (hdigits ▸ List.mem_cons_self)
          rw [List.cons_append, readYear]
          · intro rest heq
            cases heq
            cases hd
          · intro rest heq
            cases heq
            cases hd
      have hyear : (year.natAbs : Int) = year := by omega
      simp only [unsigned, hread, Option.map_some, hyear]
    next =>
      have hyear : (year.natAbs : Int) = year := by omega
      simp only [List.cons_append, readYear, signed, Option.map_some, hyear]

/-! ### Items -/

theorem noBlank_yearText (year : Int) (rest : List Char) : NoBlank (yearText year ++ rest) := by
  rw [yearText]
  split
  · intro c hc
    cases hc
    decide
  · split
    · exact noBlank_padded 4 _ rest
    · intro c hc
      cases hc
      decide

theorem readItems_step {item : Item} {r r' : Reading} {cs cs' : List Char}
    (h : readItem item r cs = some (r', cs')) (form : List Item) :
    readItems r cs (item :: form) = readItems r' cs' form := by
  rw [readItems, h]
  rfl

variable (r : Reading) {rest : List Char} (form : List Item)

theorem readItems_year (year : Int) (stops : NoDigit rest) :
    readItems r (yearText year ++ rest) (.number .year :: form) =
      readItems { r with year := some year } rest form := by
  refine readItems_step ?_ form
  rw [readItem, skipBlanks_eq (noBlank_yearText year rest), readYear_yearText year stops]
  rfl

/-- A field of two digits is read back, whatever comes after it. -/
theorem readItems_number {field : Field} (notYear : field ≠ .year) {n : Nat} (fits : n < 100) :
    readItems r (padded 2 n ++ rest) (.number field :: form) =
      readItems (r.set field n) rest form := by
  refine readItems_step ?_ form
  have hread : readNumber 2 (padded 2 n ++ rest) = some (n, rest) :=
    readNumber_padded (by decide) fits (by decide) (.inl rfl)
  rw [readItem, skipBlanks_eq (noBlank_padded 2 n rest), hread]
  · rfl
  · exact notYear

theorem readItems_literal (c : Char) :
    readItems r (c :: rest) (.literal c :: form) = readItems r rest form := by
  refine readItems_step ?_ form
  rw [readItem, if_pos rfl]

theorem readItems_blanks (h : NoBlank rest) :
    readItems r rest (.blanks :: form) = readItems r rest form := by
  refine readItems_step ?_ form
  rw [readItem, skipBlanks_eq h]

theorem readFraction_padded {width n : Nat} (pos : 0 < width) (fits : n < 10 ^ width)
    (within : width ≤ 9) : readFraction (padded width n) = some (n * 10 ^ (9 - width), []) := by
  have none : NoDigit [] := by simp [NoDigit]
  have hread := readNumber_padded pos fits within (.inr none)
  rw [List.append_nil] at hread
  rw [readFraction, hread]
  simp [padded_length pos fits]

/-- A point and a fraction at the end of a text, of which each digit is a tenth of that before. -/
theorem readItems_point {width n : Nat} (pos : 0 < width) (fits : n < 10 ^ width)
    (within : width ≤ 9) : readItems r ('.' :: padded width n) (.fraction :: form) =
      readItems { r with nanosecond := n * 10 ^ (9 - width) } [] form := by
  refine readItems_step ?_ form
  rw [readItem, readFraction_padded pos fits within]
  rfl

/-- A fraction at the end of a text is read back, however many digits it was given. -/
theorem readItems_fraction (start : r.nanosecond = 0) {n : Nat} (fits : n < 1000000000) :
    readItems r (fractionText n) (.fraction :: form) =
      readItems { r with nanosecond := n } [] form := by
  have point : ∀ {width m : Nat}, 0 < width → m < 10 ^ width → width ≤ 9 →
      m * 10 ^ (9 - width) = n → readItems r ('.' :: padded width m) (.fraction :: form) =
        readItems { r with nanosecond := n } [] form := by
    rintro width m pos hm within rfl
    exact readItems_point r form pos hm within
  rw [fractionText]
  split
  next zero =>
    subst zero
    refine readItems_step ?_ form
    rw [← start]
    rfl
  next =>
    split
    next => exact point (by decide) (by omega) (by decide) (by omega)
    next =>
      split
      next => exact point (by decide) (by omega) (by decide) (by omega)
      next => exact point (by decide) (by omega) (by decide) (by omega)

/-! ### Dates and times -/

theorem daysInMonth_le (year : Int) (month : Nat) : daysInMonth year month ≤ 31 := by
  unfold daysInMonth
  split
  · split <;> decide
  all_goals decide

/-- What has been read once a date has been. -/
def Reading.withDate (r : Reading) (d : Date) : Reading :=
  { r with year := some d.year, month := some d.month, day := some d.day }

def Reading.withClock (r : Reading) (t : Time) : Reading :=
  { r with hour := some t.hour, minute := some t.minute, second := some t.second }

theorem noDigit_dash (cs : List Char) : NoDigit ('-' :: cs) := by
  intro c hc
  cases hc
  rfl

theorem readItems_date (d : Date) :
    readItems r (d.chars ++ rest) (dateForm ++ form) = readItems (r.withDate d) rest form := by
  obtain ⟨-, -, -, hmonth, -, hday⟩ := d.valid
  have hlast := daysInMonth_le d.year d.month
  simp only [Date.chars, dateForm, List.append_assoc, List.cons_append, List.nil_append]
  rw [readItems_year _ _ _ (noDigit_dash _), readItems_literal,
    readItems_number _ _ (by decide) (by omega), readItems_literal,
    readItems_number _ _ (by decide) (by omega)]
  rfl

theorem readItems_looseDate (d : Date) (h : NoBlank rest) :
    readItems r (d.chars ++ rest) (looseDateForm ++ form) = readItems (r.withDate d) rest form := by
  obtain ⟨-, -, -, hmonth, -, hday⟩ := d.valid
  have hlast := daysInMonth_le d.year d.month
  have dash : ∀ cs, NoBlank ('-' :: cs) := by
    intro cs c hc
    cases hc
    decide
  simp only [Date.chars, looseDateForm, List.append_assoc, List.cons_append, List.nil_append]
  rw [readItems_year _ _ _ (noDigit_dash _), readItems_blanks _ _ (dash _), readItems_literal,
    readItems_number _ _ (by decide) (by omega), readItems_blanks _ _ (dash _), readItems_literal,
    readItems_number _ _ (by decide) (by omega), readItems_blanks _ _ h]
  rfl

/-- A time of day is read up to the fraction of its second. -/
theorem readItems_clock (t : Time) :
    readItems r (clockText t ++ rest) (clockForm ++ form) =
      readItems (r.withClock t) rest (.fraction :: form) := by
  obtain ⟨hhour, hminute, hsecond, -⟩ := t.valid
  simp only [clockText, clockForm, List.append_assoc, List.cons_append, List.nil_append]
  rw [readItems_number _ _ (by decide) (by omega), readItems_literal,
    readItems_number _ _ (by decide) (by omega), readItems_literal,
    readItems_number _ _ (by decide) (by omega)]
  rfl

theorem readItems_looseClock (t : Time) (start : r.nanosecond = 0) :
    readItems r (clockText t ++ fractionText t.nanosecond) (looseClockForm ++ form) =
      readItems { r.withClock t with nanosecond := t.nanosecond } [] form := by
  obtain ⟨hhour, hminute, hsecond, hnanosecond⟩ := t.valid
  have colon : ∀ cs, NoBlank (':' :: cs) := by
    intro cs c hc
    cases hc
    decide
  have none : NoBlank [] := by simp [NoBlank]
  simp only [clockText, looseClockForm, List.append_assoc, List.cons_append, List.nil_append]
  rw [readItems_number _ _ (by decide) (by omega), readItems_blanks _ _ (colon _),
    readItems_literal, readItems_number _ _ (by decide) (by omega), readItems_blanks _ _ (colon _),
    readItems_literal, readItems_number _ _ (by decide) (by omega)]
  change readItems (r.withClock t) _ _ = _
  rw [readItems_fraction (r.withClock t) _ start hnanosecond, readItems_blanks _ _ none]

end Calendar

open Calendar

/-- What a date and time is read from. -/
def Datetime.reading (t : Datetime) : Reading :=
  { Reading.withClock (Reading.withDate {} t.date) t.time with nanosecond := t.time.nanosecond }

theorem Datetime.reading_datetime? (t : Datetime) : t.reading.datetime? = some t := by
  have hdate : Date.of? t.date.year t.date.month t.date.day = some t.date := dif_pos t.date.valid
  have htime : Time.of? t.time.hour t.time.minute t.time.second t.time.nanosecond = some t.time :=
    dif_pos t.time.valid
  simp [Reading.datetime?, Reading.date?, Reading.time?, reading, Reading.withDate,
    Reading.withClock, hdate, htime]

/-- A date is read back from what it is written as. -/
theorem Date.ofDocument?_text (d : Date) : Date.ofDocument? d.text = some d := by
  have none : NoBlank [] := by simp [NoBlank]
  have hread := readItems_looseDate {} [] d none
  rw [List.append_nil, List.append_nil] at hread
  have hform : readForm looseDateForm d.text = some (Reading.withDate {} d) := by
    rw [readForm, Date.text, String.toList_ofList, hread]
    rfl
  rw [ofDocument?, hform]
  exact dif_pos d.valid

/-- A date and time is read back, with its fraction and a leap second. -/
theorem Datetime.ofDocument?_text (t : Datetime) : Datetime.ofDocument? t.text = some t := by
  have letter : ∀ cs, NoBlank ('T' :: cs) := by
    intro cs c hc
    cases hc
    decide
  have hclock := readItems_looseClock (Reading.withDate {} t.date) [] t.time rfl
  rw [List.append_nil] at hclock
  have hform : readForm (looseDateForm ++ .literal 'T' :: looseClockForm) t.text =
      some t.reading := by
    rw [readForm, Datetime.text, String.toList_ofList, List.append_assoc, List.cons_append,
      readItems_looseDate _ _ _ (letter _), readItems_literal, hclock]
    rfl
  rw [ofDocument?, hform]
  exact t.reading_datetime?

/-! ### The form of the store -/

/-- What a date is stored as is an operand, and the same date. -/
theorem Date.ofOperand?_text (d : Date) : Date.ofOperand? d.text = some d := by
  have hread := @readItems_date {} [] [] d
  rw [List.append_nil, List.append_nil] at hread
  have hform : readForm dateForm d.text = some (Reading.withDate {} d) := by
    rw [readForm, Date.text, String.toList_ofList, hread]
    rfl
  rw [ofOperand?, hform]
  exact dif_pos d.valid

/-- What a date and time is stored as is an operand, and the same to the microsecond. -/
theorem Datetime.ofOperand?_storageText (t : Datetime) :
    Datetime.ofOperand? t.storageText = some t.truncated := by
  have fits : t.time.nanosecond / 1000 < 10 ^ 6 := by
    have hnanosecond := t.time.valid.2.2.2
    omega
  have hclock := @readItems_clock (Reading.withDate {} t.date)
    ('.' :: padded 6 (t.time.nanosecond / 1000)) [] t.time
  rw [List.append_nil, readItems_point _ _ (by decide) fits (by decide)] at hclock
  have hform : readForm (dateForm ++ .literal 'T' :: clockForm) t.storageText =
      some t.truncated.reading := by
    rw [readForm, storageText, String.toList_ofList, List.append_assoc, List.cons_append,
      readItems_date, readItems_literal, hclock]
    rfl
  rw [ofOperand?, hform]
  exact t.truncated.reading_datetime?

/-- Nothing finer than a microsecond is stored. -/
theorem Datetime.storageText_truncated (t : Datetime) :
    t.truncated.storageText = t.storageText := by
  have hmicrosecond : t.time.nanosecond / 1000 * 1000 / 1000 = t.time.nanosecond / 1000 :=
    Nat.mul_div_cancel _ (by decide)
  simp only [storageText, truncated, Time.truncated, clockText, hmicrosecond]

end FieldSearch
