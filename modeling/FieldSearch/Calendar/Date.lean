/-!
# Dates and times

Days of the Gregorian calendar, extended in both directions, and times of day to the nanosecond. The
second 60 stands for a leap second, which may follow any minute.
-/

namespace FieldSearch

namespace Calendar

def isLeapYear (year : Int) : Bool := year % 4 == 0 && (year % 100 != 0 || year % 400 == 0)

def daysInMonth (year : Int) (month : Nat) : Nat :=
  match month with
  | 2 => if isLeapYear year then 29 else 28
  | 4 | 6 | 9 | 11 => 30
  | _ => 31

def firstYear : Int := -262143

def lastYear : Int := 262142

def IsDate (year : Int) (month day : Nat) : Prop :=
  firstYear ≤ year ∧ year ≤ lastYear ∧ 1 ≤ month ∧ month ≤ 12 ∧
    1 ≤ day ∧ day ≤ daysInMonth year month

instance (year : Int) (month day : Nat) : Decidable (IsDate year month day) :=
  inferInstanceAs (Decidable (_ ∧ _))

def IsTime (hour minute second nanosecond : Nat) : Prop :=
  hour < 24 ∧ minute < 60 ∧ second ≤ 60 ∧ nanosecond < 1000000000

instance (hour minute second nanosecond : Nat) : Decidable (IsTime hour minute second nanosecond) :=
  inferInstanceAs (Decidable (_ ∧ _))

end Calendar

structure Date where
  year : Int
  month : Nat
  day : Nat
  valid : Calendar.IsDate year month day
  deriving DecidableEq

structure Time where
  hour : Nat
  minute : Nat
  second : Nat
  nanosecond : Nat
  valid : Calendar.IsTime hour minute second nanosecond
  deriving DecidableEq

structure Datetime where
  date : Date
  time : Time
  deriving DecidableEq

def Date.of? (year : Int) (month day : Nat) : Option Date :=
  if h : Calendar.IsDate year month day then some ⟨year, month, day, h⟩ else none

def Time.of? (hour minute second nanosecond : Nat) : Option Time :=
  if h : Calendar.IsTime hour minute second nanosecond then
    some ⟨hour, minute, second, nanosecond, h⟩
  else none

/-- Forget what is finer than a microsecond. -/
def Time.truncated (t : Time) : Time where
  hour := t.hour
  minute := t.minute
  second := t.second
  nanosecond := t.nanosecond / 1000 * 1000
  valid := by
    obtain ⟨h, m, s, n⟩ := t.valid
    exact ⟨h, m, s, by omega⟩

def Datetime.truncated (t : Datetime) : Datetime := ⟨t.date, t.time.truncated⟩

/-- Chronological order. -/
def Date.cmp (a b : Date) : Ordering :=
  (compare a.year b.year).then ((compare a.month b.month).then (compare a.day b.day))

def Time.cmp (a b : Time) : Ordering :=
  (compare a.hour b.hour).then ((compare a.minute b.minute).then
    ((compare a.second b.second).then (compare a.nanosecond b.nanosecond)))

def Datetime.cmp (a b : Datetime) : Ordering := (a.date.cmp b.date).then (a.time.cmp b.time)

end FieldSearch
