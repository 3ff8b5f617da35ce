import FieldSearch.Schema.Types

/-!
# Comparisons

The nine ways a leaf compares an attribute with its operand, and the tokens that name them.
-/

namespace FieldSearch

inductive Comparison where
  | eq
  | ne
  /-- A pattern in which `%` stands for any text and `_` for any character. -/
  | like
  /-- A regular expression that matches anywhere. -/
  | regex
  | lt
  | le
  | gt
  | ge
  /-- Membership in a list. -/
  | isIn
  deriving DecidableEq, Repr

namespace Comparison

def all : List Comparison := [eq, ne, like, regex, lt, le, gt, ge, isIn]

def tokenTable : List (String × Comparison) := [
  ("=", eq), ("__eq__", eq), ("!=", ne), ("__ne__", ne), ("like", like), ("regex", regex),
  ("regexp", regex), ("<", lt), ("__lt__", lt), ("<=", le), ("__le__", le), (">", gt),
  ("__gt__", gt), (">=", ge), ("__ge__", ge), ("in", isIn), ("in_", isIn)]

/-- The comparison that a token names, in this very spelling. -/
def ofToken? (token : String) : Option Comparison := tokenTable.lookup token

def tokens (c : Comparison) : List String := (tokenTable.filter (·.2 == c)).map (·.1)

/-- The token by which the comparison is told. -/
def symbol : Comparison → String
  | eq => "="
  | ne => "!="
  | like => "like"
  | regex => "regex"
  | lt => "<"
  | le => "<="
  | gt => ">"
  | ge => ">="
  | isIn => "in"

/-- The name in plans and tables. -/
def name : Comparison → String
  | eq => "eq"
  | ne => "ne"
  | like => "like"
  | regex => "regex"
  | lt => "lt"
  | le => "le"
  | gt => "gt"
  | ge => "ge"
  | isIn => "in"

def ofName? (s : String) : Option Comparison := all.find? (·.name == s)

def isEquality : Comparison → Bool
  | eq | ne => true
  | _ => false

def isOrdering : Comparison → Bool
  | lt | le | gt | ge => true
  | _ => false

def isPattern : Comparison → Bool
  | like | regex => true
  | _ => false

/-- Whether values of the type can be compared so. -/
def accepts (c : Comparison) (type : ScalarType) : Bool :=
  if c.isPattern then type.isText
  else if c.isOrdering then type.isOrdered
  else true

end Comparison

end FieldSearch
