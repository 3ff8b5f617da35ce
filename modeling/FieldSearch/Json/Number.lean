import FieldSearch.Json.Value

/-!
# JSON numbers

A literal without fraction and exponent is an integer while it fits into 64 bits, signed below zero
and unsigned above. Every other literal is a float: its first digits, as many as fit into 64 bits,
are rounded to a float, which is then multiplied or divided once by a rounded power of ten. The
result is not always the float nearest to the literal.
-/

namespace FieldSearch

namespace Json

def digitValue (c : Char) : Nat := c.toNat - '0'.toNat

/-- Read digits onto `acc` for as long as the number stays below `limit`; the number of digits read
and the rest come with it. -/
def readDigits (limit : Nat) (acc : Nat) : List Char → Nat × Nat × List Char
  | [] => (acc, 0, [])
  | c :: rest =>
    if c.isDigit ∧ acc * 10 + digitValue c < limit then
      let (value, count, left) := readDigits limit (acc * 10 + digitValue c) rest
      (value, count + 1, left)
    else
      (acc, 0, c :: rest)

def startsWithDigit : List Char → Bool
  | c :: _ => c.isDigit
  | [] => false

def wordLimit : Nat := UInt64.size

def powerOfTen? (n : Nat) : Option Binary64 := Binary64.ofNat? (Nat.pow 10 n)

/-- Divide by `10^n`, at most 308 places in one division. Two divisions of that size leave zero of
a 64-bit significand, so `steps` of 3 reach every `n`. -/
def scaleDown (steps : Nat) (x : Binary64) (n : Nat) : Option Binary64 :=
  match steps with
  | 0 => some x
  | steps + 1 =>
    if n ≤ 308 then do x.div? (← powerOfTen? n)
    else if x.isZero then some x
    else do
      let y ← x.div? (← powerOfTen? 308)
      scaleDown steps y (n - 308)

/-- `significand * 10^exponent`; none when it is too large. -/
def floatOfParts (negative : Bool) (significand : Nat) (exponent : Int) : Option Binary64 := do
  let x ← Binary64.ofNat? significand
  let magnitude ←
    if exponent < 0 then scaleDown 3 x (-exponent).toNat
    else if exponent ≤ 308 then x.mul? (← powerOfTen? exponent.toNat)
    else if x.isZero then some x
    else none
  pure (if negative then magnitude.neg else magnitude)

/-- Read what follows the `e` of a literal. An exponent too large to count makes zero of a zero
significand or of a negative exponent, and is refused otherwise. -/
def readExponent (negative : Bool) (significand : Nat) (start : Int) (cs : List Char) :
    Option (Json × List Char) :=
  let (down, cs) := match cs with
    | '+' :: rest => (false, rest)
    | '-' :: rest => (true, rest)
    | rest => (false, rest)
  let (value, count, rest) := readDigits (Nat.pow 2 31) 0 cs
  if count = 0 then none
  else if startsWithDigit rest then
    if significand ≠ 0 ∧ !down then none
    else some (float (Binary64.zero negative), rest.dropWhile Char.isDigit)
  else
    let exponent := if down then start - value else start + value
    (floatOfParts negative significand exponent).map fun x => (float x, rest)

/-- Read an exponent if there is one, and make the float. -/
def readFloatEnd (negative : Bool) (significand : Nat) (exponent : Int) :
    List Char → Option (Json × List Char)
  | 'e' :: rest => readExponent negative significand exponent rest
  | 'E' :: rest => readExponent negative significand exponent rest
  | rest => (floatOfParts negative significand exponent).map fun x => (float x, rest)

/-- Read what follows the point of a literal. Digits that do not fit any more are skipped. -/
def readFraction (negative : Bool) (significand : Nat) (exponent : Int) (cs : List Char) :
    Option (Json × List Char) :=
  let (value, count, rest) := readDigits wordLimit significand cs
  if startsWithDigit rest then
    readFloatEnd negative value (exponent - count) (rest.dropWhile Char.isDigit)
  else if count = 0 then none
  else readFloatEnd negative value (exponent - count) rest

/-- The integer with this sign, or the float that stands for it: minus zero, and what lies below
the signed words. -/
def integer? (negative : Bool) (significand : Nat) : Option Json :=
  if !negative then some (int significand)
  else if significand ≠ 0 ∧ Int64.minValue.toInt ≤ -significand then some (int (-significand))
  else (floatOfParts true significand 0).map float

/-- Read a literal after its sign. -/
def readUnsigned (negative : Bool) (cs : List Char) : Option (Json × List Char) :=
  let finish (significand : Nat) (rest : List Char) : Option (Json × List Char) :=
    match rest with
    | '.' :: rest => readFraction negative significand 0 rest
    | 'e' :: rest => readExponent negative significand 0 rest
    | 'E' :: rest => readExponent negative significand 0 rest
    | rest => (integer? negative significand).map (·, rest)
  match cs with
  | '0' :: rest => if startsWithDigit rest then none else finish 0 rest
  | cs =>
    let (value, count, rest) := readDigits wordLimit 0 cs
    if count = 0 then none
    else if startsWithDigit rest then
      let more := rest.takeWhile Char.isDigit
      match rest.dropWhile Char.isDigit with
      | '.' :: rest => readFraction negative value more.length rest
      | rest => readFloatEnd negative value more.length rest
    else finish value rest

def readNumber : List Char → Option (Json × List Char)
  | '-' :: rest => readUnsigned true rest
  | cs => readUnsigned false cs

end Json

end FieldSearch
