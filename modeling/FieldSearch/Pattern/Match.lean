import FieldSearch.Pattern.Expression
import FieldSearch.Text.Property

/-!
# Matching

Places in a text are numbered from 0, before its first character. A set of places is a number with
one bit for each of them. An expression takes the places where it may begin to those where it may
end, so that all ways to match are followed at once.
-/

namespace FieldSearch.Pattern

open Text (CharSet)

abbrev Places := Nat

/-- The places before a character of the set. -/
def placesBefore (s : CharSet) : List Char → Places
  | [] => 0
  | c :: rest => 2 * placesBefore s rest + if s.has c then 1 else 0

def wordSet : CharSet := Text.wordChars

def isWordChar (unicode : Bool) (c : Option Char) : Bool :=
  match c with
  | none => false
  | some c => if unicode then wordSet.has c else c.isAlphanum || c == '_'

/-- A line starts after its end sign; between carriage return and line feed none does. -/
def isLineStart (crlf : Bool) (before after : Option Char) : Bool :=
  before.isNone || before == some '\n' ||
    (crlf && before == some '\r' && after != some '\n')

def isLineEnd (crlf : Bool) (before after : Option Char) : Bool :=
  if crlf then
    after.isNone || after == some '\r' || (after == some '\n' && before != some '\r')
  else after.isNone || after == some '\n'

/-- The condition holds between two characters, which the ends of the text do not have. -/
def Place.holds (before after : Option Char) : Place → Bool
  | textStart => before.isNone
  | textEnd => after.isNone
  | lineStart crlf => isLineStart crlf before after
  | lineEnd crlf => isLineEnd crlf before after
  | word u => isWordChar u before != isWordChar u after
  | notWord u => isWordChar u before == isWordChar u after
  | wordStart u => !isWordChar u before && isWordChar u after
  | wordEnd u => isWordChar u before && !isWordChar u after
  | wordStartHalf u => !isWordChar u before
  | wordEndHalf u => !isWordChar u after

/-- The places that fulfil a condition, from the one after `before` on. -/
def placesWhere (kind : Place) (before : Option Char) : List Char → Places
  | [] => if kind.holds before none then 1 else 0
  | c :: rest =>
    2 * placesWhere kind (some c) rest + if kind.holds before (some c) then 1 else 0

/-- Take a step so many times, but no more once nothing changes. -/
def iterate (step : Places → Places) : Nat → Places → Places
  | 0, s => s
  | n + 1, s => if step s = s then s else iterate step n (step s)

/-- Take a step up to so many times, keeping the places on the way. -/
def accumulate (step : Places → Places) : Nat → Places → Places
  | 0, s => s
  | n + 1, s => if s ||| step s = s then s else accumulate step n (s ||| step s)

mutual

/-- The places to which the expression leads from the places `s` of a text. -/
def Expression.advance (text : List Char) (e : Expression) (s : Places) : Places :=
  match e with
  | .empty => s
  | .chars set => (s &&& placesBefore set text) <<< 1
  | .place kind => s &&& placesWhere kind none text
  | .capture body => body.advance text s
  | .repetition body least most =>
    let rounds := (most.getD (least + text.length + 1) - least)
    accumulate (body.advance text) (min rounds (text.length + 1))
      (iterate (body.advance text) least s)
  | .concat parts => Expression.advanceAll text parts s
  | .alternation parts => Expression.advanceAny text parts s

def Expression.advanceAll (text : List Char) (parts : List Expression) (s : Places) : Places :=
  match parts with
  | [] => s
  | part :: rest => Expression.advanceAll text rest (part.advance text s)

def Expression.advanceAny (text : List Char) (parts : List Expression) (s : Places) : Places :=
  match parts with
  | [] => 0
  | part :: rest => part.advance text s ||| Expression.advanceAny text rest s

end

/-- Every place of a text. -/
def allPlaces (text : List Char) : Places := (1 <<< (text.length + 1)) - 1

/-- The expression matches some part of the text. -/
def Expression.matchesIn (e : Expression) (text : List Char) : Bool :=
  e.advance text (allPlaces text) != 0

end FieldSearch.Pattern
