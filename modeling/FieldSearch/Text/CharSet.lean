import FieldSearch.Text.Run

/-!
# Sets of characters

A set is a list of ranges of code points in increasing order, with a gap between any two. The
operations keep it so.
-/

namespace FieldSearch

namespace Text

structure CharSet where
  ranges : List (Nat × Nat)
  deriving DecidableEq

namespace CharSet

def lastPoint : Nat := 0x10FFFF

def empty : CharSet := ⟨[]⟩

def all : CharSet := ⟨[(0, lastPoint)]⟩

def hasPoint (s : CharSet) (c : Nat) : Bool := s.ranges.any fun r => r.1 ≤ c && c ≤ r.2

def has (s : CharSet) (c : Char) : Bool := s.hasPoint c.toNat

/-- Insert a range, joining it with those that it touches. -/
def insertRange (r : Nat × Nat) : List (Nat × Nat) → List (Nat × Nat)
  | [] => [r]
  | s :: rest =>
    if r.2 + 1 < s.1 then r :: s :: rest
    else if s.2 + 1 < r.1 then s :: insertRange r rest
    else insertRange (min r.1 s.1, max r.2 s.2) rest

/-- Join ranges that touch in a list in increasing order; the first of them is under way. -/
def joinRanges (r : Nat × Nat) : List (Nat × Nat) → List (Nat × Nat)
  | [] => [r]
  | s :: rest =>
    if s.1 ≤ r.2 + 1 then joinRanges (r.1, max r.2 s.2) rest else r :: joinRanges s rest

def range (first last : Nat) : CharSet := if first ≤ last then ⟨[(first, last)]⟩ else empty

def single (c : Char) : CharSet := ⟨[(c.toNat, c.toNat)]⟩

def insert (s : CharSet) (first last : Nat) : CharSet := ⟨insertRange (first, last) s.ranges⟩

def union (s t : CharSet) : CharSet := ⟨t.ranges.foldl (fun rs r => insertRange r rs) s.ranges⟩

def unionAll (sets : List CharSet) : CharSet := sets.foldl union empty

/-- The ranges between those of a list, from `next` on. -/
def gaps (next : Nat) : List (Nat × Nat) → List (Nat × Nat)
  | [] => if next ≤ lastPoint then [(next, lastPoint)] else []
  | r :: rest => if next < r.1 then (next, r.1 - 1) :: gaps (r.2 + 1) rest else gaps (r.2 + 1) rest

def complement (s : CharSet) : CharSet := ⟨gaps 0 s.ranges⟩

def intersection (s t : CharSet) : CharSet := (s.complement.union t.complement).complement

def difference (s t : CharSet) : CharSet := s.intersection t.complement

def symmetricDifference (s t : CharSet) : CharSet := (s.union t).difference (s.intersection t)

def isAscii (s : CharSet) : Bool := s.ranges.all (·.2 ≤ 0x7F)

def runRanges (run : Run) : List (Nat × Nat) :=
  if run.step = 1 then [(run.first, run.last)]
  else (List.range ((run.last - run.first) / run.step + 1)).map fun i =>
    (run.first + i * run.step, run.first + i * run.step)

/-- The set of runs in increasing order. -/
def ofRuns (runs : List Run) : CharSet :=
  match runs.flatMap runRanges with
  | [] => empty
  | r :: rest => ⟨joinRanges r rest⟩

def ofText (text : String) : CharSet := ofRuns (Run.ofText text)

end CharSet

end Text

end FieldSearch
