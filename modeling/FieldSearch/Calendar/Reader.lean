import FieldSearch.Calendar.Date
import FieldSearch.Text.Blank

/-!
# Reading dates and times

A form is a list of items that are read one after another. Blanks before a number are always
skipped, other blanks only where the form has an item for them. A year may carry a sign, and then
has any number of digits; without one it has four at most. The other numbers have two at most.
-/

namespace FieldSearch

namespace Calendar

inductive Field where
  | year
  | month
  | day
  | hour
  | minute
  | second
  deriving DecidableEq

inductive Item where
  | number (field : Field)
  | literal (c : Char)
  | blanks
  /-- A point and a fraction of a second, or nothing. -/
  | fraction

/-- What has been read so far. -/
structure Reading where
  year : Option Int := none
  month : Option Nat := none
  day : Option Nat := none
  hour : Option Nat := none
  minute : Option Nat := none
  second : Option Nat := none
  nanosecond : Nat := 0

def skipBlanks (cs : List Char) : List Char := cs.dropWhile Text.isBlank

/-- Read one digit or more, at most `most` of them. -/
def readNumber (most : Nat) (cs : List Char) : Option (Nat × List Char) :=
  let digits := (cs.take most).takeWhile Char.isDigit
  if digits.isEmpty then none
  else some (digits.foldl (fun n c => n * 10 + (c.toNat - 48)) 0, cs.drop digits.length)

/-- Read a year: any number of digits after a sign, else four at most. -/
def readYear (cs : List Char) : Option (Int × List Char) :=
  match cs with
  | '-' :: rest => (readNumber rest.length rest).map fun (n, rest) => (-(n : Int), rest)
  | '+' :: rest => (readNumber rest.length rest).map fun (n, rest) => ((n : Int), rest)
  | cs => (readNumber 4 cs).map fun (n, rest) => ((n : Int), rest)

/-- Nine digits count, further ones are read over. -/
def readFraction (cs : List Char) : Option (Nat × List Char) := do
  let (value, rest) ← readNumber 9 cs
  let places := cs.length - rest.length
  pure (value * Nat.pow 10 (9 - places), rest.dropWhile Char.isDigit)

def Reading.set (r : Reading) (field : Field) (value : Nat) : Reading :=
  match field with
  | .year => { r with year := some value }
  | .month => { r with month := some value }
  | .day => { r with day := some value }
  | .hour => { r with hour := some value }
  | .minute => { r with minute := some value }
  | .second => { r with second := some value }

def readItem (item : Item) (r : Reading) (cs : List Char) : Option (Reading × List Char) :=
  match item with
  | .number .year => do
    let (year, rest) ← readYear (skipBlanks cs)
    pure ({ r with year := some year }, rest)
  | .number field => do
    let (value, rest) ← readNumber 2 (skipBlanks cs)
    pure (r.set field value, rest)
  | .literal c =>
    match cs with
    | d :: rest => if d = c then some (r, rest) else none
    | [] => none
  | .blanks => some (r, skipBlanks cs)
  | .fraction =>
    match cs with
    | '.' :: rest => do
      let (nanosecond, rest) ← readFraction rest
      pure ({ r with nanosecond := nanosecond }, rest)
    | cs => some (r, cs)

def readItems (r : Reading) (cs : List Char) : List Item → Option (Reading × List Char)
  | [] => some (r, cs)
  | item :: rest => do
    let (r, cs) ← readItem item r cs
    readItems r cs rest

/-- Read a whole text. -/
def readForm (form : List Item) (s : String) : Option Reading :=
  match readItems {} s.toList form with
  | some (r, []) => some r
  | _ => none

def Reading.date? (r : Reading) : Option Date := do Date.of? (← r.year) (← r.month) (← r.day)

def Reading.time? (r : Reading) : Option Time := do
  Time.of? (← r.hour) (← r.minute) (← r.second) r.nanosecond

def Reading.datetime? (r : Reading) : Option Datetime := do pure ⟨← r.date?, ← r.time?⟩

/-- The date form of an operand. -/
def dateForm : List Item :=
  [.number .year, .literal '-', .number .month, .literal '-', .number .day]

def clockForm : List Item :=
  [.number .hour, .literal ':', .number .minute, .literal ':', .number .second, .fraction]

/-- The date form of a document, with blanks around every number. -/
def looseDateForm : List Item :=
  [.number .year, .blanks, .literal '-', .number .month, .blanks, .literal '-', .number .day,
    .blanks]

def looseClockForm : List Item :=
  [.number .hour, .blanks, .literal ':', .number .minute, .blanks, .literal ':', .number .second,
    .fraction, .blanks]

end Calendar

open Calendar

def Date.ofOperand? (s : String) : Option Date := readForm dateForm s >>= Reading.date?

def Datetime.ofOperand? (s : String) : Option Datetime :=
  readForm (dateForm ++ .literal 'T' :: clockForm) s >>= Reading.datetime?

def Date.ofDocument? (s : String) : Option Date := readForm looseDateForm s >>= Reading.date?

def Datetime.ofDocument? (s : String) : Option Datetime :=
  readForm (looseDateForm ++ .literal 'T' :: looseClockForm) s >>= Reading.datetime?

end FieldSearch
