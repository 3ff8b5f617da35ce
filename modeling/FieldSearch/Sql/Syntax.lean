import FieldSearch.Filter.Comparison
import FieldSearch.Filter.SortKey
import FieldSearch.Search.Join

/-!
# Select statements

The statements that plans are rendered to: the keys or the number of the rows of one table, on a
condition. Rows of other tables occur only in `exists` conditions, where two columns relate them to
the row in question. Values stand in the parameters of a statement; its text holds their numbers.
-/

namespace FieldSearch.Sql

/-- The name of a row within a statement. -/
inductive RowName where
  | row (occurrence : Occurrence)
  /-- A row of the table that links an occurrence to the root. -/
  | link (occurrence : Occurrence)
  deriving DecidableEq

structure ColumnName where
  row : RowName
  column : String
  deriving DecidableEq

/-- A table under a row name. -/
structure TableRef where
  table : String
  row : RowName
  deriving DecidableEq

/-- A second table with the two columns that are equal in the joined rows. -/
structure Join where
  source : TableRef
  left : ColumnName
  right : ColumnName
  deriving DecidableEq

/-- The rows of a table, or of two tables joined, in which two columns are equal, the second of
them a column of an outer row. -/
structure Related where
  source : TableRef
  join : Option Join
  inner : ColumnName
  outer : ColumnName
  deriving DecidableEq

inductive Condition where
  | compare (column : ColumnName) (comparison : Comparison) (placeholder : Nat)
  | isIn (column : ColumnName) (placeholders : List Nat)
  | isNull (column : ColumnName)
  | isNotNull (column : ColumnName)
  /-- Some of the rows fulfils a condition. -/
  | existsWith (rows : Related) (condition : Condition)
  | existsAny (rows : Related)
  | existsNone (rows : Related)
  | not (condition : Condition)
  | and (parts : List Condition)
  | or (parts : List Condition)

structure OrderBy where
  column : ColumnName
  caseInsensitive : Bool
  direction : SortDirection
  deriving DecidableEq

inductive Output where
  | column (name : ColumnName)
  | count
  deriving DecidableEq

/-- The placeholders of the number of rows to return and of those to skip. -/
structure Window where
  limit : Nat
  offset : Nat
  deriving DecidableEq

structure Select where
  output : Output
  source : TableRef
  condition : Condition
  order : List OrderBy
  window : Option Window

end FieldSearch.Sql
