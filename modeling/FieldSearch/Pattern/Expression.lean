import FieldSearch.Text.CharSet

/-!
# Expressions

Patterns as they are matched: every part is a set of characters, a condition on a place in the
text, or made of such. `size` is the memory that a matching machine for the expression takes; it
bounds the patterns that are accepted.
-/

namespace FieldSearch.Pattern

open Text (CharSet)

/-- A condition on a place between two characters. -/
inductive Place where
  | textStart
  | textEnd
  | lineStart (crlf : Bool)
  | lineEnd (crlf : Bool)
  | word (unicode : Bool)
  | notWord (unicode : Bool)
  | wordStart (unicode : Bool)
  | wordEnd (unicode : Bool)
  | wordStartHalf (unicode : Bool)
  | wordEndHalf (unicode : Bool)
  deriving DecidableEq

inductive Expression where
  | empty
  | chars (set : CharSet)
  | place (kind : Place)
  | capture (body : Expression)
  | repetition (body : Expression) (least : Nat) (most : Option Nat)
  | concat (parts : List Expression)
  | alternation (parts : List Expression)

mutual

/-- The expression can match nothing but the empty text. -/
def Expression.isEmptyOnly : Expression → Bool
  | .empty => true
  | .chars _ => false
  | .place _ => true
  | .capture body => body.isEmptyOnly
  | .repetition body _ most => body.isEmptyOnly || most == some 0
  | .concat parts => Expression.allEmptyOnly parts
  | .alternation parts => Expression.allEmptyOnly parts

def Expression.allEmptyOnly : List Expression → Bool
  | [] => true
  | part :: rest => part.isEmptyOnly && Expression.allEmptyOnly rest

end

/-- A repetition. What matches only the empty text is the same repeated once as any number of
times. -/
def Expression.repeated (body : Expression) (least : Nat) (most : Option Nat) : Expression :=
  let (least, most) :=
    if body.isEmptyOnly then (min least 1, some (most.elim 1 (min · 1))) else (least, most)
  if most = some 0 then .empty
  else if least = 1 ∧ most = some 1 then body
  else .repetition body least most

/-- The sequences of bytes that encode the code points from `first` to `last`, all of which have
`count` digits of six bits after the first byte, as sequences of byte ranges. -/
def byteSequences (first last : Nat) : Nat → List (List (Nat × Nat))
  | 0 => [[(first, last)]]
  | count + 1 =>
    let unit := Nat.pow 64 (count + 1)
    let (lead, low) := (first / unit, first % unit)
    let (lead', low') := (last / unit, last % unit)
    if lead = lead' then (byteSequences low low' count).map ((lead, lead) :: ·)
    else
      let head := if low = 0 then [] else
        (byteSequences low (unit - 1) count).map ((lead, lead) :: ·)
      let tail := if low' = unit - 1 then [] else
        (byteSequences 0 low' count).map ((lead', lead') :: ·)
      let from' := if low = 0 then lead else lead + 1
      let to' := if low' = unit - 1 then lead' + 1 else lead'
      let middle := if from' < to' then
        (byteSequences 0 (unit - 1) count).map ((from', to' - 1) :: ·) else []
      head ++ middle ++ tail

/-- The code points with encodings of each length; surrogates have none. -/
def encodingBlocks : List (Nat × Nat × Nat) := [
  (0, 0x7F, 0), (0x80, 0x7FF, 1), (0x800, 0xD7FF, 2), (0xE000, 0xFFFF, 2), (0x10000, 0x10FFFF, 3)]

def rangeSequences (r : Nat × Nat) : List (List (Nat × Nat)) :=
  encodingBlocks.flatMap fun (low, high, count) =>
    if max low r.1 ≤ min high r.2 then byteSequences (max low r.1) (min high r.2) count else []

/-- The number of items in a sequence that the sequence before it does not begin with. -/
def newItems : List (Nat × Nat) → List (Nat × Nat) → Nat
  | a :: as, b :: bs => if a = b then newItems as bs else (b :: bs).length
  | _, bs => bs.length

def countNewItems (previous : List (Nat × Nat)) : List (List (Nat × Nat)) → Nat
  | [] => 0
  | s :: rest => newItems previous s + countNewItems s rest

/-- The bytes that one state takes. -/
def stateSize : Nat := 32

/-- The length of the encoding of a code point. -/
def encodedLength (c : Nat) : Nat :=
  if c < 0x80 then 1 else if c < 0x800 then 2 else if c < 0x10000 then 3 else 4

/-- The size of a set: a single character is a chain of states, ASCII a table, and any other set a
tree of byte ranges under one choice. -/
def setSize (s : CharSet) : Nat :=
  match s.ranges with
  | [] => stateSize
  | [(first, last)] =>
    if first = last then encodedLength first * stateSize else rangesSize [(first, last)]
  | ranges => rangesSize ranges
where
  rangesSize (ranges : List (Nat × Nat)) : Nat :=
    if ranges.all (·.2 ≤ 0x7F) then 2 * stateSize + 8 * ranges.length
    else
      let sequences := ranges.flatMap rangeSequences
      (countNewItems [] sequences + 2) * stateSize + 4 * sequences.length

/-- The size of a repetition of a body of some size. -/
def repetitionSize (body least : Nat) : Option Nat → Nat
  | none => max least 1 * body + (if least = 0 then 3 else 1) * stateSize
  | some most => most * body + (most - least) * (stateSize + 8) +
      (if least = most then 0 else stateSize)

mutual

def Expression.size : Expression → Nat
  | .empty => stateSize
  | .chars set => setSize set
  | .place _ => stateSize
  | .capture body => body.size + 2 * stateSize
  | .repetition body least most => repetitionSize body.size least most
  | .concat parts => Expression.sizeOf parts
  | .alternation parts => Expression.sizeOf parts + 2 * stateSize + 4 * parts.length

def Expression.sizeOf : List Expression → Nat
  | [] => 0
  | part :: rest => part.size + Expression.sizeOf rest

end

/-- The size that an expression may have: ten mebibytes. -/
def sizeLimit : Nat := 10 * (1 <<< 20)

end FieldSearch.Pattern
