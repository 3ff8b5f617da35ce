import FieldSearch.Decimal.Shortest

/-!
# Decimals of fixed length

A number rounded to so many significant digits, and the layout in which stored numbers are turned
into text.
-/

namespace FieldSearch

namespace Binary64

/-- The magnitude rounded to `places` digits, a half going up; trailing zeros are dropped. -/
def rounded (places : Nat) (x : Binary64) : Decimal :=
  if x.isZero then ⟨0, 0⟩
  else
    let (num, den) := x.ratio
    let k := decimalPoint num den - places
    let unit := den * Nat.pow 10 k.toNat
    let lifted := num * Nat.pow 10 (-k).toNat
    Decimal.trim (places + 1) ⟨(2 * lifted + unit) / (2 * unit), k⟩

end Binary64

namespace Decimal

/-- An exponent with its sign and at least two digits. -/
def exponentChars (e : Int) : List Char :=
  let digits := Nat.toDigits 10 e.natAbs
  (if e < 0 then '-' else '+') :: (if digits.length < 2 then '0' :: digits else digits)

/-- Put a point into digits, with a zero after it if nothing else is there. -/
def withPoint (before after : List Char) : List Char :=
  before ++ '.' :: (if after.isEmpty then ['0'] else after)

/-- Positional from `0.0001` up to fifteen places before the point, with an exponent elsewhere. -/
def storageChars (d : Decimal) : List Char :=
  let digits := Nat.toDigits 10 d.digits
  let point : Int := digits.length + d.exponent
  if d.digits = 0 then ['0', '.', '0']
  else if point ≤ -4 ∨ 15 < point then
    withPoint (digits.take 1) (digits.drop 1) ++ 'e' :: exponentChars (point - 1)
  else if point ≤ 0 then
    withPoint ['0'] (List.replicate (-point).toNat '0' ++ digits)
  else if 0 ≤ d.exponent then
    withPoint (digits ++ List.replicate d.exponent.toNat '0') []
  else withPoint (digits.take point.toNat) (digits.drop point.toNat)

end Decimal

/-- The text of a stored number: fifteen digits of it. Zero has no sign. -/
def Binary64.storageText (x : Binary64) : String :=
  String.ofList ((if x.negative && !x.isZero then ['-'] else []) ++ (x.rounded 15).storageChars)

end FieldSearch
