import FieldSearch.Binary64

/-!
# Shortest decimals

The shortest decimal that rounds to a given binary64 number. The reals that round to a number form
an interval; of the decimal grids, from coarse to fine, the first with a point in the interval is
taken, and on it the point nearest to the number.
-/

namespace FieldSearch

/-- The decimal `digits * 10^exponent`. -/
structure Decimal where
  digits : Nat
  exponent : Int
  deriving DecidableEq, Repr

namespace Decimal

/-- Remove the factors of ten, at most `fuel` of them, from the digits. -/
def trim (fuel : Nat) (d : Decimal) : Decimal :=
  match fuel with
  | 0 => d
  | fuel + 1 =>
    if d.digits ≠ 0 ∧ d.digits % 10 = 0 then trim fuel ⟨d.digits / 10, d.exponent + 1⟩ else d

/-- The number of decimal digits of a natural; zero has one. -/
def width (n : Nat) : Nat := (Nat.toDigits 10 n).length

end Decimal

namespace Binary64

/-- Four times the magnitude, in units of `2^exponent`, with the ends of the interval of reals
that round to it: half a unit on either side, a quarter below a power of two. -/
structure Interval where
  lower : Nat
  middle : Nat
  upper : Nat
  /-- The ends belong to the interval. -/
  closed : Bool

def interval (x : Binary64) : Interval :=
  let m := x.significand
  let narrow := m = Nat.pow 2 52 ∧ -1074 < x.exponent
  ⟨4 * m - (if narrow then 1 else 2), 4 * m, 4 * m + 2, m % 2 = 0⟩

/-- The least `p` with `num / den < 10^p`, for a positive fraction. -/
def decimalPoint (num den : Nat) : Int :=
  if den ≤ num then
    Decimal.width (num / den)
  else
    let places := Decimal.width (den / num) - 1
    if num * Nat.pow 10 places < den then -places else 1 - places

/-- The point of the grid of `10^k` that lies in the interval and nearest to its middle, an exact
tie going to the even point. Both ends and middle are `… / den`. -/
def nearestPoint? (i : Interval) (scale den : Nat) (k : Int) : Option Nat :=
  let unit := den * Nat.pow 10 k.toNat
  let lift := scale * Nat.pow 10 (-k).toNat
  let below := i.middle * lift / unit
  let inside (p : Nat) : Bool :=
    let point := p * unit
    if i.closed then i.lower * lift ≤ point && point ≤ i.upper * lift
    else i.lower * lift < point && point < i.upper * lift
  let gapBelow := i.middle * lift - below * unit
  let gapAbove := (below + 1) * unit - i.middle * lift
  match inside below, inside (below + 1) with
  | true, true =>
    if gapBelow < gapAbove then some below
    else if gapAbove < gapBelow then some (below + 1)
    else some (if below % 2 = 0 then below else below + 1)
  | true, false => some below
  | false, true => some (below + 1)
  | false, false => none

/-- Try the grids of `places`, `places + 1`, … digits, `fuel` of them. -/
def shortestFrom (i : Interval) (scale den : Nat) (point : Int) (places fuel : Nat) : Decimal :=
  let k := point - places
  match fuel with
  | 0 => ⟨i.middle * scale * Nat.pow 10 (-k).toNat / (den * Nat.pow 10 k.toNat), k⟩
  | fuel + 1 =>
    match nearestPoint? i scale den k with
    | some p => Decimal.trim 20 ⟨p, k⟩
    | none => shortestFrom i scale den point (places + 1) fuel

/-- The shortest decimal that rounds to the magnitude, the nearest to it among those. Seventeen
digits always suffice. -/
def shortest (x : Binary64) : Decimal :=
  if x.isZero then ⟨0, 0⟩
  else
    let scale := Nat.pow 2 x.exponent.toNat
    let den := 4 * Nat.pow 2 (-x.exponent).toNat
    shortestFrom x.interval scale den (decimalPoint x.ratio.1 x.ratio.2) 1 17

end Binary64

end FieldSearch
