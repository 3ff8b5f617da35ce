import FieldSearch.Store.Order

/-!
# Patterns with wildcards

`%` stands for any text and `_` for any character; all else stands for itself, letters in their
case.
-/

namespace FieldSearch.Sql

/-- What remains of a list after each of its beginnings. -/
def suffixes {α : Type} : List α → List (List α)
  | [] => [[]]
  | a :: rest => (a :: rest) :: suffixes rest

/-- The whole text fits the pattern. -/
def fits : List Char → List Char → Bool
  | [], text => text.isEmpty
  | c :: pattern, text =>
    if c = '%' then (suffixes text).any (fits pattern)
    else
      match text with
      | [] => false
      | d :: text => (c == '_' || c == d) && fits pattern text

namespace Value

/-- The characters of a text or of the text of a number. -/
def chars? (v : Value) : Option (List Char) :=
  match v.asText with
  | text s => some (beforeNul s)
  | _ => none

def like (v pattern : Value) : Truth := do return fits (← pattern.chars?) (← v.chars?)

end Value

end FieldSearch.Sql
