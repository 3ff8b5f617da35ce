import FieldSearch.Decimal.Shortest

/-!
# Decimal text

Layouts of a decimal as text: positional between two bounds on the place of the decimal point, and
scientific outside them.
-/

namespace FieldSearch

namespace Decimal

/-- Where positional notation ends: the decimal point may stand from `least` to `most` places right
of the first digit's left edge. -/
structure Layout where
  least : Int
  most : Int

/-- Number text of JSON: positional from `1e-5` up to below `1e16`, with at least one decimal, and
an exponent without sign or padding elsewhere. -/
def jsonLayout : Layout := ⟨-4, 16⟩

def zeros (n : Nat) : List Char := List.replicate n '0'

/-- Write a decimal whose digits carry no trailing zero. -/
def layOut (layout : Layout) (d : Decimal) : List Char :=
  let digits := Nat.toDigits 10 d.digits
  let point : Int := digits.length + d.exponent
  if d.digits = 0 then ['0', '.', '0']
  else if 0 ≤ d.exponent ∧ point ≤ layout.most then
    digits ++ zeros d.exponent.toNat ++ ['.', '0']
  else if 0 < point ∧ point ≤ layout.most then
    digits.take point.toNat ++ '.' :: digits.drop point.toNat
  else if layout.least ≤ point ∧ point ≤ 0 then
    '0' :: '.' :: zeros (-point).toNat ++ digits
  else
    let exponent := (toString (point - 1)).toList
    match digits with
    | [] => []
    | [digit] => digit :: 'e' :: exponent
    | first :: rest => first :: '.' :: rest ++ 'e' :: exponent

end Decimal

/-- The text of a number: sign, then the shortest decimal in the given layout. -/
def Binary64.text (layout : Decimal.Layout) (x : Binary64) : List Char :=
  (if x.negative then ['-'] else []) ++ x.shortest.layOut layout

end FieldSearch
