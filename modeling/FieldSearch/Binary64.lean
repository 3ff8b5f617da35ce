/-!
# Finite binary64 numbers

A number is held as sign, significand and exponent in the one form that the format allows, so
equality of the structure is equality of the stored number (the two zeros stay apart). Rounding,
products, quotients and order are exact arithmetic on naturals and integers.
-/

namespace FieldSearch

/-- The number `(-1)^negative * significand * 2^exponent`. The last field leaves one form to each
number: a significand below `2^52` has the least exponent. -/
structure Binary64 where
  negative : Bool
  significand : Nat
  exponent : Int
  significand_lt : significand < Nat.pow 2 53
  exponent_ge : -1074 ≤ exponent
  exponent_le : exponent ≤ 971
  normal : Nat.pow 2 52 ≤ significand ∨ exponent = -1074
  deriving DecidableEq

namespace Binary64

def zero (negative : Bool) : Binary64 where
  negative := negative
  significand := 0
  exponent := -1074
  significand_lt := by decide
  exponent_ge := by decide
  exponent_le := by decide
  normal := Or.inr rfl

instance : Inhabited Binary64 := ⟨zero false⟩

def isZero (x : Binary64) : Bool := x.significand == 0

def neg (x : Binary64) : Binary64 := { x with negative := !x.negative }

/-- Assemble the parts, if they are the form of some number. -/
def ofParts? (negative : Bool) (significand : Nat) (exponent : Int) : Option Binary64 :=
  if h : significand < Nat.pow 2 53 ∧ -1074 ≤ exponent ∧ exponent ≤ 971 ∧
      (Nat.pow 2 52 ≤ significand ∨ exponent = -1074) then
    some ⟨negative, significand, exponent, h.1, h.2.1, h.2.2.1, h.2.2.2⟩
  else
    none

/-- The quotient rounded to the nearest natural, a half going to the even neighbour. -/
def roundDiv (num den : Nat) : Nat :=
  let quotient := num / den
  let twice := 2 * (num % den)
  if twice < den then quotient
  else if den < twice then quotient + 1
  else if quotient % 2 = 0 then quotient else quotient + 1

/-- `num / den` in units of `2^exponent`, rounded. -/
def roundAt (num den : Nat) (exponent : Int) : Nat :=
  roundDiv (num * Nat.pow 2 (-exponent).toNat) (den * Nat.pow 2 exponent.toNat)

/-- The exponent at which `num / den` has 53 significant bits, but at least the smallest one. -/
def exponentFor (num den : Nat) : Int :=
  let least : Int := num.log2 - den.log2 - 53
  let fits := num * Nat.pow 2 (-least).toNat < Nat.pow 2 53 * (den * Nat.pow 2 least.toNat)
  max (-1074) (if fits then least else least + 1)

/-- The number nearest to `num / den`, a tie going to the even significand; none when it lies
beyond the largest finite number. -/
def ofRatio? (negative : Bool) (num den : Nat) : Option Binary64 :=
  if num = 0 then
    some (zero negative)
  else
    let exponent := exponentFor num den
    let significand := roundAt num den exponent
    if significand = Nat.pow 2 53 then ofParts? negative (Nat.pow 2 52) (exponent + 1)
    else ofParts? negative significand exponent

/-- The magnitude as a fraction. -/
def ratio (x : Binary64) : Nat × Nat :=
  (x.significand * Nat.pow 2 x.exponent.toNat, Nat.pow 2 (-x.exponent).toNat)

def ofNat? (n : Nat) : Option Binary64 := ofRatio? false n 1

def ofInt? (n : Int) : Option Binary64 := ofRatio? (n < 0) n.natAbs 1

/-- The product rounded to nearest. -/
def mul? (x y : Binary64) : Option Binary64 :=
  ofRatio? (x.negative != y.negative) (x.ratio.1 * y.ratio.1) (x.ratio.2 * y.ratio.2)

/-- The quotient rounded to nearest, for a divisor that is not zero. -/
def div? (x y : Binary64) : Option Binary64 :=
  if y.isZero then none
  else ofRatio? (x.negative != y.negative) (x.ratio.1 * y.ratio.2) (x.ratio.2 * y.ratio.1)

/-- The value in units of `2^-1074`, of which every number is a whole multiple. -/
def scaled (x : Binary64) : Int :=
  let magnitude : Int := x.significand * Nat.pow 2 (x.exponent + 1074).toNat
  if x.negative then -magnitude else magnitude

/-- Compare by value; the two zeros are equal. -/
def cmp (x y : Binary64) : Ordering := compare x.scaled y.scaled

/-- Compare an integer with a number by value. -/
def cmpInt (n : Int) (x : Binary64) : Ordering := compare (n * Nat.pow 2 1074) x.scaled

/-- The integer that the number equals, if it is whole. -/
def toInt? (x : Binary64) : Option Int :=
  if x.ratio.1 % x.ratio.2 = 0 then
    let magnitude : Int := x.ratio.1 / x.ratio.2
    some (if x.negative then -magnitude else magnitude)
  else
    none

end Binary64

end FieldSearch
