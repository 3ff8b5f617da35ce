import FieldSearch.Sql.Syntax

/-!
# The text of a statement

Names of tables and columns are always quoted. Every part of a conjunction or disjunction and every
negated condition stands in parentheses.
-/

namespace FieldSearch.Sql

/-- An identifier in quotes, a quote in it written twice. -/
def quoteChars (name : List Char) : List Char :=
  '"' :: name.flatMap (fun c => if c = '"' then ['"', '"'] else [c]) ++ ['"']

def quoteIdentifier (name : String) : String := String.ofList (quoteChars name.toList)

def placeholder (number : Nat) : String := "?" ++ toString number

def RowName.text : RowName → String
  | row o => o.name
  | link o => o.name ++ "_link"

def ColumnName.text (c : ColumnName) : String := c.row.text ++ "." ++ quoteIdentifier c.column

def TableRef.text (t : TableRef) : String := quoteIdentifier t.table ++ " AS " ++ t.row.text

def comparisonText : Comparison → String
  | .eq => "="
  | .ne => "<>"
  | .like => "LIKE"
  | .regex => "REGEXP"
  | .lt => "<"
  | .le => "<="
  | .gt => ">"
  | .ge => ">="
  | .isIn => "IN"

def Join.text (j : Join) : String :=
  " JOIN " ++ j.source.text ++ " ON " ++ j.left.text ++ " = " ++ j.right.text

def Related.text (r : Related) : String :=
  "SELECT 1 FROM " ++ r.source.text ++ (r.join.map Join.text).getD "" ++ " WHERE " ++
    r.inner.text ++ " = " ++ r.outer.text

namespace Condition

mutual

def text : Condition → String
  | compare column comparison n =>
    column.text ++ " " ++ comparisonText comparison ++ " " ++ placeholder n
  | isIn column ns => column.text ++ " IN (" ++ ", ".intercalate (ns.map placeholder) ++ ")"
  | isNull column => column.text ++ " IS NULL"
  | isNotNull column => column.text ++ " IS NOT NULL"
  | existsWith rows condition => "EXISTS (" ++ rows.text ++ " AND (" ++ text condition ++ "))"
  | existsAny rows => "EXISTS (" ++ rows.text ++ ")"
  | existsNone rows => "NOT EXISTS (" ++ rows.text ++ ")"
  | not condition => "NOT (" ++ text condition ++ ")"
  | and [] => "1"
  | and (part :: rest) => " AND ".intercalate (texts (part :: rest))
  | or [] => "0"
  | or (part :: rest) => " OR ".intercalate (texts (part :: rest))

def texts : List Condition → List String
  | [] => []
  | part :: rest => ("(" ++ text part ++ ")") :: texts rest

end

end Condition

def directionText : SortDirection → String
  | .asc => "ASC"
  | .desc => "DESC"

def OrderBy.text (o : OrderBy) : String :=
  o.column.text ++ (if o.caseInsensitive then " COLLATE NOCASE " else " ") ++
    directionText o.direction

def orderText : List OrderBy → String
  | [] => ""
  | terms => " ORDER BY " ++ ", ".intercalate (terms.map OrderBy.text)

def Window.text (w : Window) : String :=
  " LIMIT " ++ placeholder w.limit ++ " OFFSET " ++ placeholder w.offset

def Output.text : Output → String
  | column name => name.text
  | count => "COUNT(*)"

def Select.text (s : Select) : String :=
  "SELECT " ++ s.output.text ++ " FROM " ++ s.source.text ++ " WHERE " ++ s.condition.text ++
    orderText s.order ++ (s.window.map Window.text).getD ""

end FieldSearch.Sql
