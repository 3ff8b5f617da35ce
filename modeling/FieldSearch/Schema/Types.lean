/-!
# Types of attributes and relations
-/

namespace FieldSearch

inductive ScalarType where
  | integer
  | float
  | string
  | boolean
  | date
  | datetime
  deriving DecidableEq, Repr

namespace ScalarType

def all : List ScalarType := [integer, float, string, boolean, date, datetime]

def name : ScalarType → String
  | integer => "integer"
  | float => "float"
  | string => "string"
  | boolean => "boolean"
  | date => "date"
  | datetime => "datetime"

def ofName? (s : String) : Option ScalarType := all.find? (·.name == s)

/-- Values of the type can be compared by `<`. -/
def isOrdered : ScalarType → Bool
  | boolean => false
  | _ => true

def isText : ScalarType → Bool
  | string => true
  | _ => false

end ScalarType

/-- How many rows a relation can lead to. -/
inductive Cardinality where
  | toOne
  | toMany
  deriving DecidableEq, Repr

namespace Cardinality

def all : List Cardinality := [toOne, toMany]

def name : Cardinality → String
  | toOne => "to-one"
  | toMany => "to-many"

def ofName? (s : String) : Option Cardinality := all.find? (·.name == s)

end Cardinality

end FieldSearch
