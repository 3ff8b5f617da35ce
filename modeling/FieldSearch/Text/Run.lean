/-!
# Runs of characters

A set of characters is listed as runs, each with its step, since letters of the two cases often take
turns. Long lists are kept as hexadecimal text.
-/

namespace FieldSearch

namespace Text

/-- Every `step`-th code point from `first` to `last`. -/
structure Run where
  first : Nat
  last : Nat
  step : Nat
  deriving DecidableEq

namespace Run

def has (run : Run) (c : Nat) : Bool :=
  run.first ≤ c && c ≤ run.last && (c - run.first) % run.step == 0

end Run

def inRuns (runs : List Run) (c : Char) : Bool := runs.any (·.has c.toNat)

namespace Run

/-- A run under way: its first code point, its last one, and whether a step was written. -/
structure Draft where
  first : Option Nat
  last : Option Nat
  stepped : Bool

namespace Draft

def none : Draft := ⟨.none, .none, false⟩

/-- Close the draft. A written step is always 2. -/
def close (d : Draft) (rest : List Run) : List Run :=
  match d.last with
  | .none => rest
  | some last => ⟨d.first.getD last, last, if d.stepped then 2 else 1⟩ :: rest

end Draft

def hexValue (c : Char) : Nat := if c.isDigit then c.toNat - 48 else c.toNat - 55

/-- Read runs written `first-last`, `first-last/2` or as one code point, in upper case hexadecimal
between blanks. -/
def ofChars (d : Draft) : List Char → List Run
  | [] => d.close []
  | ' ' :: rest => d.close (ofChars .none rest)
  | '\n' :: rest => d.close (ofChars .none rest)
  | '-' :: rest => ofChars ⟨d.last, none, false⟩ rest
  | '/' :: _ :: rest => ofChars { d with stepped := true } rest
  | c :: rest => ofChars { d with last := some (d.last.getD 0 * 16 + hexValue c) } rest

def ofText (text : String) : List Run := ofChars .none text.toList

end Run

end Text

end FieldSearch
