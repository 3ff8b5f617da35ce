import FieldSearch.Proofs.Calendar.Reading
import Mathlib.Data.String.Basic

/-!
# The order of stored dates

Texts are compared character by character. Numbers of one width are in the order of their digits,
so texts of dates in one year are in the order of the days, and those of times in the order of
time. Years are in order from 0 to 9999. Outside they have a sign, which is compared first: a plus
comes before a minus, and a minus before all digits.
-/

namespace FieldSearch

open Std

/-! ### Texts -/

theorem compare_chars_eq_lt {c d : Char} : compare c d = .lt ↔ c < d :=
  compareOfLessAndEq_eq_lt

theorem compare_lists_eq_lt {as bs : List Char} : compare as bs = .lt ↔ as < bs := by
  induction as generalizing bs with
  | nil =>
    cases bs with
    | nil => simp
    | cons b bs => simp [List.compare_nil_cons]
  | cons a as ih =>
    cases bs with
    | nil => simp [List.compare_cons_nil]
    | cons b bs =>
      rw [List.compare_cons_cons, Ordering.then_eq_lt, ih, compare_chars_eq_lt,
        LawfulEqCmp.compare_eq_iff_eq, List.cons_lt_cons_iff]

/-- Strings are compared as their characters are. -/
theorem compare_ofList (as bs : List Char) :
    compare (String.ofList as) (String.ofList bs) = compare as bs := by
  have hlt : ∀ as bs : List Char,
      compare (String.ofList as) (String.ofList bs) = .lt ↔ compare as bs = .lt := by
    intro as bs
    have hstring : compare (String.ofList as) (String.ofList bs) = .lt ↔
        String.ofList as < String.ofList bs := compareOfLessAndEq_eq_lt
    rw [hstring, compare_lists_eq_lt, String.lt_iff_toList_lt, String.toList_ofList,
      String.toList_ofList]
  cases h : compare as bs with
  | lt => exact (hlt as bs).mpr h
  | eq =>
    rw [LawfulEqCmp.compare_eq_iff_eq.mp h]
    exact ReflCmp.compare_self
  | gt => exact OrientedCmp.gt_of_lt ((hlt bs as).mpr (OrientedCmp.lt_of_gt h))

/-- Of two texts whose first parts are of one length, those are compared first. -/
theorem compare_append {as bs : List Char} (hlength : as.length = bs.length)
    (cs ds : List Char) :
    compare (as ++ cs) (bs ++ ds) = (compare as bs).then (compare cs ds) := by
  induction as generalizing bs with
  | nil =>
    obtain rfl := List.length_eq_zero_iff.mp hlength.symm
    rfl
  | cons a as ih =>
    cases bs with
    | nil => cases hlength
    | cons b bs =>
      rw [List.cons_append, List.cons_append, List.compare_cons_cons, List.compare_cons_cons,
        ih (Nat.succ.inj hlength), Ordering.then_assoc]

/-- A separator that comes before everything in the first parts makes these be compared first. -/
theorem compare_separated {separator : Char} {as bs : List Char}
    (has : ∀ a ∈ as, separator < a) (hbs : ∀ b ∈ bs, separator < b) (cs ds : List Char) :
    compare (as ++ separator :: cs) (bs ++ separator :: ds) =
      (compare as bs).then (compare cs ds) := by
  induction as generalizing bs with
  | nil =>
    cases bs with
    | nil =>
      rw [List.nil_append, List.nil_append, List.compare_cons_cons, ReflOrd.compare_self]
      rfl
    | cons b bs =>
      have hb : compare separator b = .lt := compare_chars_eq_lt.mpr (hbs b List.mem_cons_self)
      rw [List.nil_append, List.cons_append, List.compare_cons_cons, hb]
      rfl
  | cons a as ih =>
    rw [List.forall_mem_cons] at has
    cases bs with
    | nil =>
      have ha : compare a separator = .gt := OrientedCmp.gt_of_lt (compare_chars_eq_lt.mpr has.1)
      rw [List.nil_append, List.cons_append, List.compare_cons_cons, ha]
      rfl
    | cons b bs =>
      rw [List.forall_mem_cons] at hbs
      rw [List.cons_append, List.cons_append, List.compare_cons_cons, List.compare_cons_cons,
        ih has.2 hbs.2, Ordering.then_assoc]

/-! ### Numbers -/

theorem isDigit_toNat {c : Char} (h : c.isDigit = true) : 48 ≤ c.toNat ∧ c.toNat ≤ 57 :=
  Char.isDigit_iff_toNat.mp h

theorem ofDigitChars_cons_zero (c : Char) (cs : List Char) :
    Nat.ofDigitChars 10 (c :: cs) 0 =
      10 ^ cs.length * (c.toNat - 48) + Nat.ofDigitChars 10 cs 0 := by
  rw [Nat.ofDigitChars_cons, Nat.ofDigitChars_eq_ofDigitChars_zero, Nat.mul_zero, Nat.zero_add]
  rfl

theorem ofDigitChars_lt {cs : List Char} (h : ∀ c ∈ cs, c.isDigit = true) :
    Nat.ofDigitChars 10 cs 0 < 10 ^ cs.length := by
  induction cs with
  | nil => decide
  | cons c cs ih =>
    rw [List.forall_mem_cons] at h
    have hc := isDigit_toNat h.1
    have hcs := ih h.2
    have hdigit : 10 ^ cs.length * (c.toNat - 48) ≤ 10 ^ cs.length * 9 :=
      Nat.mul_le_mul_left _ (by omega)
    rw [ofDigitChars_cons_zero, List.length_cons, Nat.pow_succ]
    omega

/-- The first digit that differs decides, since what follows it is less than one of it. -/
theorem ofDigitChars_lt_of_lt {a b : Char} {as bs : List Char} (h : a < b)
    (ha : a.isDigit = true) (has : ∀ c ∈ as, c.isDigit = true)
    (hlength : as.length = bs.length) :
    Nat.ofDigitChars 10 (a :: as) 0 < Nat.ofDigitChars 10 (b :: bs) 0 := by
  have hfirst := isDigit_toNat ha
  have hlt : a.toNat < b.toNat := h
  have hrest := ofDigitChars_lt has
  have hstep : 10 ^ bs.length * (a.toNat - 48 + 1) ≤ 10 ^ bs.length * (b.toNat - 48) :=
    Nat.mul_le_mul_left _ (by omega)
  rw [Nat.mul_add, Nat.mul_one] at hstep
  rw [hlength] at hrest
  rw [ofDigitChars_cons_zero, ofDigitChars_cons_zero, hlength]
  omega

/-- Digits of one length are in the order of the numbers they stand for. -/
theorem compare_digits {as bs : List Char} (has : ∀ c ∈ as, c.isDigit = true)
    (hbs : ∀ c ∈ bs, c.isDigit = true) (hlength : as.length = bs.length) :
    compare as bs = compare (Nat.ofDigitChars 10 as 0) (Nat.ofDigitChars 10 bs 0) := by
  induction as generalizing bs with
  | nil =>
    obtain rfl := List.length_eq_zero_iff.mp hlength.symm
    rfl
  | cons a as ih =>
    cases bs with
    | nil => cases hlength
    | cons b bs =>
      rw [List.forall_mem_cons] at has hbs
      have hrest := Nat.succ.inj hlength
      rw [List.compare_cons_cons]
      rcases Std.lt_trichotomy a b with hlt | rfl | hgt
      · rw [compare_chars_eq_lt.mpr hlt,
          Nat.compare_eq_lt.mpr (ofDigitChars_lt_of_lt hlt has.1 has.2 hrest)]
        rfl
      · rw [ReflOrd.compare_self, Ordering.eq_then, ih has.2 hbs.2 hrest,
          ofDigitChars_cons_zero, ofDigitChars_cons_zero, hrest]
        simp only [Nat.compare_eq_ite_lt, Nat.add_lt_add_iff_left]
      · rw [OrientedCmp.gt_of_lt (compare_chars_eq_lt.mpr hgt),
          Nat.compare_eq_gt.mpr (ofDigitChars_lt_of_lt hgt hbs.1 hbs.2 hrest.symm)]
        rfl

namespace Calendar

theorem compare_padded {width m n : Nat} (pos : 0 < width) (hm : m < 10 ^ width)
    (hn : n < 10 ^ width) : compare (padded width m) (padded width n) = compare m n := by
  rw [compare_digits (fun c => padded_isDigit) (fun c => padded_isDigit)
    ((padded_length pos hm).trans (padded_length pos hn).symm), padded_value, padded_value]

/-- A field of two digits is compared before what follows it. -/
theorem compare_field {m n : Nat} (hm : m < 100) (hn : n < 100) (cs ds : List Char) :
    compare (padded 2 m ++ cs) (padded 2 n ++ ds) = (compare m n).then (compare cs ds) := by
  have hlength : (padded 2 m).length = (padded 2 n).length :=
    (padded_length (by decide) hm).trans (padded_length (by decide) hn).symm
  rw [compare_append hlength, compare_padded (by decide) hm hn]

theorem compare_literal (c : Char) (cs ds : List Char) :
    compare (c :: cs) (c :: ds) = compare cs ds := by
  rw [List.compare_cons_cons, ReflOrd.compare_self]
  rfl

/-! ### Years -/

theorem dash_lt_digit {c : Char} (h : c.isDigit = true) : '-' < c := by
  have hc := isDigit_toNat h
  have hlt : '-'.toNat < c.toNat := Nat.lt_of_lt_of_le (by decide) hc.1
  exact hlt

/-- A year is a digit or a sign, and then digits. -/
theorem exists_yearText_eq (year : Int) :
    ∃ first digits, yearText year = first :: digits ∧ ∀ c ∈ digits, '-' < c := by
  have after : ∀ c ∈ padded 4 year.natAbs, '-' < c :=
    fun c hc => dash_lt_digit (padded_isDigit hc)
  rw [yearText]
  split
  · exact ⟨'-', padded 4 year.natAbs, rfl, after⟩
  · split
    · obtain ⟨first, digits, hdigits⟩ := List.exists_cons_of_ne_nil (padded_ne_nil 4 year.natAbs)
      rw [hdigits] at after ⊢
      exact ⟨first, digits, rfl, fun c hc => after c (List.mem_cons_of_mem _ hc)⟩
    · exact ⟨'+', padded 4 year.natAbs, rfl, after⟩

/-- Years are compared before what follows a dash, however many digits they have. -/
theorem compare_year (a b : Int) (cs ds : List Char) :
    compare (yearText a ++ '-' :: cs) (yearText b ++ '-' :: ds) =
      (compare (yearText a) (yearText b)).then (compare cs ds) := by
  obtain ⟨first, digits, ha, hdigits⟩ := exists_yearText_eq a
  obtain ⟨first', digits', hb, hdigits'⟩ := exists_yearText_eq b
  rw [ha, hb, List.cons_append, List.cons_append, List.compare_cons_cons, List.compare_cons_cons,
    compare_separated hdigits hdigits', Ordering.then_assoc]

theorem yearText_four {year : Int} (nonnegative : 0 ≤ year) (short : year ≤ 9999) :
    yearText year = padded 4 year.natAbs := by
  rw [yearText, if_neg (by omega), if_pos short]

/-- A sign comes before all digits. -/
theorem compare_sign {sign : Char} (h : sign = '+' ∨ sign = '-') (cs : List Char) (n : Nat) :
    compare (sign :: cs) (padded 4 n) = .lt := by
  obtain ⟨first, digits, hdigits⟩ := List.exists_cons_of_ne_nil (padded_ne_nil 4 n)
  have hfirst : '-' < first :=
    dash_lt_digit (@padded_isDigit 4 n first (hdigits ▸ List.mem_cons_self))
  have hsign : sign < first := by
    rcases h with rfl | rfl
    · exact Char.lt_trans (by decide) hfirst
    · exact hfirst
  rw [hdigits, List.compare_cons_cons, compare_chars_eq_lt.mpr hsign]
  rfl

/-- Years up to 9999 are in order unless both are negative. -/
theorem compare_yearText {a b : Int} (ha : a ≤ 9999) (hb : b ≤ 9999) (h : 0 ≤ a ∨ 0 ≤ b) :
    compare (yearText a) (yearText b) = compare a b := by
  have negative : ∀ {a b : Int}, a < 0 → 0 ≤ b → b ≤ 9999 →
      compare (yearText a) (yearText b) = .lt := by
    intro a b before nonnegative short
    rw [yearText, if_pos before, yearText_four nonnegative short]
    exact compare_sign (.inr rfl) _ _
  rcases Int.lt_or_le a 0 with before | nonnegative
  · rw [negative before (by omega) hb, Int.compare_eq_lt.mpr (by omega)]
  · rcases Int.lt_or_le b 0 with after | nonnegative'
    · rw [OrientedCmp.gt_of_lt (negative after nonnegative ha), Int.compare_eq_gt.mpr (by omega)]
    · rw [yearText_four nonnegative ha, yearText_four nonnegative' hb,
        compare_padded (by decide) (by omega) (by omega)]
      obtain ⟨m, rfl⟩ := Int.eq_ofNat_of_zero_le nonnegative
      obtain ⟨n, rfl⟩ := Int.eq_ofNat_of_zero_le nonnegative'
      rw [Int.natAbs_natCast, Int.natAbs_natCast]
      simp only [compare, compareOfLessAndEq, Int.ofNat_lt, Int.ofNat_inj]

/-- A year after 9999 comes before every year that is not. -/
theorem compare_yearText_plus {a b : Int} (ha : 9999 < a) (hb : b ≤ 9999) :
    compare (yearText a) (yearText b) = .lt := by
  have plus : yearText a = '+' :: padded 4 a.natAbs := by
    rw [yearText, if_neg (by omega), if_neg (by omega)]
  rw [plus]
  rcases Int.lt_or_le b 0 with negative | nonnegative
  · rw [yearText, if_pos negative]
    rfl
  · rw [yearText_four nonnegative hb]
    exact compare_sign (.inl rfl) _ _

/-! ### Times of day -/

theorem compare_microseconds (m n : Nat) :
    compare (m / 1000 * 1000) (n / 1000 * 1000) = compare (m / 1000) (n / 1000) := by
  have hlt : m / 1000 * 1000 < n / 1000 * 1000 ↔ m / 1000 < n / 1000 :=
    Nat.mul_lt_mul_right (by decide)
  have heq : m / 1000 * 1000 = n / 1000 * 1000 ↔ m / 1000 = n / 1000 :=
    Nat.mul_left_inj (by decide)
  simp only [compare, compareOfLessAndEq, hlt, heq]

/-- Times of day with six digits of a fraction are in order. -/
theorem compare_clockText (s t : Time) :
    compare (clockText s ++ '.' :: padded 6 (s.nanosecond / 1000))
      (clockText t ++ '.' :: padded 6 (t.nanosecond / 1000)) =
        s.truncated.cmp t.truncated := by
  obtain ⟨hhour, hminute, hsecond, hnanosecond⟩ := s.valid
  obtain ⟨hhour', hminute', hsecond', hnanosecond'⟩ := t.valid
  simp only [clockText, List.append_assoc, List.cons_append, Time.cmp, Time.truncated]
  rw [compare_field (by omega) (by omega), compare_literal, compare_field (by omega) (by omega),
    compare_literal, compare_field (by omega) (by omega), compare_literal,
    compare_padded (by decide) (by omega) (by omega), compare_microseconds]

end Calendar

open Calendar

/-! ### Dates -/

theorem Date.cmp_eq_eq {a b : Date} : a.cmp b = .eq ↔ a = b := by
  cases a
  cases b
  simp only [cmp, Ordering.then_eq_eq, LawfulEqCmp.compare_eq_iff_eq, mk.injEq]

theorem Time.cmp_eq_eq {a b : Time} : a.cmp b = .eq ↔ a = b := by
  cases a
  cases b
  simp only [cmp, Ordering.then_eq_eq, LawfulEqCmp.compare_eq_iff_eq, mk.injEq]

theorem Datetime.cmp_eq_eq {a b : Datetime} : a.cmp b = .eq ↔ a = b := by
  cases a
  cases b
  simp only [cmp, Ordering.then_eq_eq, Date.cmp_eq_eq, Time.cmp_eq_eq, mk.injEq]

/-- The order of dates as texts: by the text of the year, and in one year by month and day. -/
def Date.cmpText (a b : Date) : Ordering :=
  (compare (yearText a.year) (yearText b.year)).then
    ((compare a.month b.month).then (compare a.day b.day))

/-- Dates as texts are in chronological order up to 9999 unless both are in negative years. -/
theorem Date.cmpText_eq_cmp {a b : Date} (ha : a.year ≤ 9999) (hb : b.year ≤ 9999)
    (h : 0 ≤ a.year ∨ 0 ≤ b.year) : a.cmpText b = a.cmp b := by
  rw [cmpText, compare_yearText ha hb h, cmp]

theorem Date.cmpText_of_year {a b : Date} (h : a.year = b.year) : a.cmpText b = a.cmp b := by
  rw [cmpText, cmp, h, ReflOrd.compare_self, ReflOrd.compare_self]

/-- A date after 9999 comes before every date that is not. -/
theorem Date.cmpText_plus {a b : Date} (ha : 9999 < a.year) (hb : b.year ≤ 9999) :
    a.cmpText b = .lt := by
  rw [cmpText, compare_yearText_plus ha hb]
  rfl

theorem Date.compare_chars (a b : Date) (cs ds : List Char) :
    compare (a.chars ++ cs) (b.chars ++ ds) = (a.cmpText b).then (compare cs ds) := by
  obtain ⟨-, -, -, hmonth, -, hday⟩ := a.valid
  obtain ⟨-, -, -, hmonth', -, hday'⟩ := b.valid
  have hlast := daysInMonth_le a.year a.month
  have hlast' := daysInMonth_le b.year b.month
  simp only [chars, cmpText, List.append_assoc, List.cons_append]
  rw [compare_year, compare_field (by omega) (by omega), compare_literal,
    compare_field (by omega) (by omega)]
  simp only [Ordering.then_assoc]

theorem Date.compare_text (a b : Date) : compare a.text b.text = a.cmpText b := by
  have h := a.compare_chars b [] []
  rw [List.append_nil, List.append_nil, ReflOrd.compare_self, Ordering.then_eq] at h
  rw [text, text, compare_ofList, h]

/-- Texts are equal just if the dates are, since they can be read back. -/
theorem Date.compare_text_eq {a b : Date} : compare a.text b.text = .eq ↔ a = b := by
  rw [LawfulEqCmp.compare_eq_iff_eq]
  constructor
  · intro h
    have hread := congrArg ofOperand? h
    rwa [ofOperand?_text, ofOperand?_text, Option.some_inj] at hread
  · rintro rfl
    rfl

/-- Within a day, texts of datetimes are in chronological order, leap seconds included. -/
theorem Datetime.compare_storageText (a b : Datetime) :
    compare a.storageText b.storageText =
      (a.date.cmpText b.date).then (a.time.truncated.cmp b.time.truncated) := by
  rw [storageText, storageText, compare_ofList, List.append_assoc, List.append_assoc,
    Date.compare_chars, List.cons_append, List.cons_append, compare_literal, compare_clockText]

theorem Datetime.compare_storageText_eq {a b : Datetime} :
    compare a.storageText b.storageText = .eq ↔ a.truncated = b.truncated := by
  rw [LawfulEqCmp.compare_eq_iff_eq]
  constructor
  · intro h
    have hread := congrArg ofOperand? h
    rwa [ofOperand?_storageText, ofOperand?_storageText, Option.some_inj] at hread
  · intro h
    rw [← a.storageText_truncated, h, b.storageText_truncated]

end FieldSearch
