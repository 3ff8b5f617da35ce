/-!
# Why the store refuses
-/

namespace FieldSearch

inductive StoreError where
  /-- Tables of this name belong to the store itself. -/
  | reservedTable (table : String)
  /-- The statement cannot be read, or names something that is not there. -/
  | malformed
  /-- Two columns of a table differ at most by case. -/
  | duplicateColumn (table : String)
  | missingTable (table : String)
  | missingColumn (column : String)
  | keyTaken (table : String)
  | keyNotInteger (table : String)
  /-- No row number is left after the last one. -/
  | numbersExhausted (table : String)
  /-- The second operand of a search is no regular expression. -/
  | badPattern
  /-- What is searched is no text. -/
  | notText
  deriving DecidableEq

end FieldSearch
