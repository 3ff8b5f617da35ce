import FieldSearch.Calendar.Date

/-!
# Dates and times as text

Years have four digits at least, with a sign outside 0 to 9999. The exact form of a time has no
fraction, or one of three, six or nine digits, the fewest that lose nothing; the storage form always
has six.
-/

namespace FieldSearch

namespace Calendar

/-- The digits of `n`, at least `width` of them. -/
def padded (width n : Nat) : List Char :=
  let digits := Nat.toDigits 10 n
  List.replicate (width - digits.length) '0' ++ digits

def yearText (year : Int) : List Char :=
  if year < 0 then '-' :: padded 4 year.natAbs
  else if year ≤ 9999 then padded 4 year.natAbs
  else '+' :: padded 4 year.natAbs

def clockText (t : Time) : List Char :=
  padded 2 t.hour ++ ':' :: padded 2 t.minute ++ ':' :: padded 2 t.second

def fractionText (nanosecond : Nat) : List Char :=
  if nanosecond = 0 then []
  else if nanosecond % 1000000 = 0 then '.' :: padded 3 (nanosecond / 1000000)
  else if nanosecond % 1000 = 0 then '.' :: padded 6 (nanosecond / 1000)
  else '.' :: padded 9 nanosecond

end Calendar

open Calendar

def Date.chars (d : Date) : List Char :=
  yearText d.year ++ '-' :: padded 2 d.month ++ '-' :: padded 2 d.day

/-- The form of a date in documents and in the store. -/
def Date.text (d : Date) : String := String.ofList d.chars

/-- The exact form of a date and time, as in documents. -/
def Datetime.text (t : Datetime) : String :=
  String.ofList (t.date.chars ++ 'T' :: clockText t.time ++ fractionText t.time.nanosecond)

/-- The form of a date and time in the store, cut off at the microsecond. -/
def Datetime.storageText (t : Datetime) : String :=
  String.ofList
    (t.date.chars ++ 'T' :: clockText t.time ++ '.' :: padded 6 (t.time.nanosecond / 1000))

end FieldSearch
