import FieldSearch.Decimal.Rounded
import FieldSearch.Sql.Table
import FieldSearch.Sql.Value

/-!
# Numbers and their text

A column prefers values of its type. A number goes into a text column as text, and text that is a
number into a column of numbers as that number; what does not fit stays as it is.
-/

namespace FieldSearch.Sql

/-- The blanks that may stand around a number. -/
def isNumberBlank (c : Char) : Bool := c == ' ' || (9 ≤ c.toNat && c.toNat ≤ 13)

def digitsValue (digits : List Char) : Nat := digits.foldl (fun n c => n * 10 + (c.toNat - 48)) 0

/-- The sign of a number, with the rest. -/
def splitSign : List Char → Bool × List Char
  | '-' :: rest => (true, rest)
  | '+' :: rest => (false, rest)
  | cs => (false, cs)

/-- The exponent after `e`, if the text has one; none if it has no digits. -/
def readExponentPart : List Char → Option (Int × List Char)
  | [] => some (0, [])
  | c :: rest =>
    if c = 'e' ∨ c = 'E' then
      let (negative, rest) := splitSign rest
      match rest.takeWhile Char.isDigit with
      | [] => none
      | digits =>
        let n : Int := digitsValue digits
        some (if negative then -n else n, rest.dropWhile Char.isDigit)
    else some (0, c :: rest)

/-- The real `digits * 10^exponent`. Exponents so large that they decide alone are cut off. -/
def realOfParts? (negative : Bool) (digits : Nat) (exponent : Int) : Option Binary64 :=
  let places : Int := Decimal.width digits
  if digits = 0 ∨ places + exponent < -400 then some (.zero negative)
  else if 400 < places + exponent then none
  else Binary64.ofRatio? negative
    (digits * Nat.pow 10 exponent.toNat) (Nat.pow 10 (-exponent).toNat)

def integerValue? (n : Int) : Option Value :=
  if Int64.minValue.toInt ≤ n ∧ n ≤ Int64.maxValue.toInt then some (.integer (Int64.ofInt n))
  else none

/-- The number that a text is, blanks around it apart. Without point and exponent it is an integer
if it fits. -/
def numberOfText? (s : String) : Option Value :=
  let (negative, cs) := splitSign (s.toList.dropWhile isNumberBlank)
  let whole := cs.takeWhile Char.isDigit
  let (fraction, pointed, rest) := match cs.dropWhile Char.isDigit with
    | '.' :: rest => (rest.takeWhile Char.isDigit, true, rest.dropWhile Char.isDigit)
    | rest => ([], false, rest)
  if whole.isEmpty && fraction.isEmpty then none
  else
    match readExponentPart rest with
    | none => none
    | some (exponent, after) =>
      if !after.all isNumberBlank then none
      else
        let digits := digitsValue (whole ++ fraction)
        let real := (realOfParts? negative digits (exponent - fraction.length)).map Value.real
        if pointed || after.length < rest.length && !(rest.head?.all isNumberBlank) then real
        else (integerValue? (if negative then -digits else digits)).or real

/-- The integer that a real equals, if it is less than the words' ends. -/
def wholeValue? (x : Binary64) : Option Value :=
  match x.toInt? with
  | some n =>
    if Int64.minValue.toInt < n ∧ n < Int64.maxValue.toInt then some (.integer (Int64.ofInt n))
    else none
  | none => none

def Value.whole : Value → Value
  | real x => (wholeValue? x).getD (real x)
  | v => v

def Value.asReal : Value → Value
  | integer n => ((Binary64.ofInt? n.toInt).map real).getD (integer n)
  | v => v

/-- The text of a number. -/
def Value.asText : Value → Value
  | integer n => text (toString n.toInt)
  | real x => text x.storageText
  | v => v

/-- The number that a text is. -/
def Value.asNumber : Value → Value
  | text s => (numberOfText? s).getD (text s)
  | v => v

/-- The value as a column of the type keeps it. Whole numbers are kept as integers, so that zero has
no sign. -/
def StorageType.keep (type : StorageType) (v : Value) : Value :=
  match type with
  | .integer => v.asNumber.whole
  | .real => v.asNumber.whole.asReal
  | .text => v.asText

/-- The value as it is compared with a column of the type. -/
def StorageType.adapt (type : StorageType) (v : Value) : Value :=
  match type with
  | .integer => v.asNumber
  | .real => v.asNumber
  | .text => v.asText

end FieldSearch.Sql
