import FieldSearch.Sql.Number

/-!
# The order of values

Null comes before numbers and numbers before text. Numbers are ordered by value, text by code
points. A comparison with null is neither true nor false.
-/

namespace FieldSearch.Sql

/-- True, false or, for `none`, unknown. -/
abbrev Truth := Option Bool

namespace Truth

def or : Truth → Truth → Truth
  | some true, _ => some true
  | _, some true => some true
  | some false, some false => some false
  | _, _ => none

/-- Some of them is true. -/
def any (ts : List Truth) : Truth := ts.foldr or (some false)

end Truth

namespace Value

def isNull : Value → Bool
  | null => true
  | _ => false

def cmp : Value → Value → Ordering
  | null, null => .eq
  | null, _ => .lt
  | _, null => .gt
  | integer a, integer b => compare a.toInt b.toInt
  | integer a, real b => Binary64.cmpInt a.toInt b
  | real a, integer b => (Binary64.cmpInt b.toInt a).swap
  | real a, real b => Binary64.cmp a b
  | text a, text b => compare a b
  | text _, _ => .gt
  | _, text _ => .lt

end Value

/-- A text ends for a comparison without case, and for a pattern with wildcards, at a NUL. -/
def beforeNul (s : String) : List Char := s.toList.takeWhile (· != '\x00')

/-- Compare texts without regard to the case of ASCII letters. -/
def cmpIgnoringCase (a b : String) : Ordering :=
  (compare ((beforeNul a).map Char.toLower) ((beforeNul b).map Char.toLower)).then
    (compare a.utf8ByteSize b.utf8ByteSize)

/-- The characters of a name, ASCII letters in lower case. -/
def nameKey (name : String) : List Char := name.toList.map Char.toLower

/-- Two names of tables or columns are the same. -/
def sameName (a b : String) : Bool := nameKey a == nameKey b

namespace Value

/-- The order in which rows are returned. -/
def cmpFor (caseInsensitive : Bool) (a b : Value) : Ordering :=
  match caseInsensitive, a, b with
  | true, text a, text b => cmpIgnoringCase a b
  | _, a, b => cmp a b

/-- A test of the order of two values, unknown if one of them is null. -/
def test (holds : Ordering → Bool) (a b : Value) : Truth :=
  if a.isNull || b.isNull then none else some (holds (cmp a b))

def equal (a b : Value) : Truth := test (· == .eq) a b

end Value

end FieldSearch.Sql
