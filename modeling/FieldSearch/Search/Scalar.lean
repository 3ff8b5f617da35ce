import FieldSearch.Calendar.Reader
import FieldSearch.Calendar.Text
import FieldSearch.Json.Record
import FieldSearch.Schema.Types

/-!
# Typed values
-/

namespace FieldSearch

inductive Scalar where
  | null
  | integer (value : Int64)
  | float (value : Binary64)
  | string (value : String)
  | boolean (value : Bool)
  | date (value : Date)
  | datetime (value : Datetime)
  deriving DecidableEq

namespace Scalar

def isNull : Scalar → Bool
  | null => true
  | _ => false

/-- The type of a value; null has none. -/
def type? : Scalar → Option ScalarType
  | null => none
  | integer _ => some .integer
  | float _ => some .float
  | string _ => some .string
  | boolean _ => some .boolean
  | date _ => some .date
  | datetime _ => some .datetime

def tagged (type : ScalarType) (value : Json) : Json :=
  .object [("type", .string type.name), ("value", value)]

def toJson : Scalar → Json
  | null => .object [("type", .string "null")]
  | integer n => tagged .integer (.int n.toInt)
  | float x => tagged .float (.float x)
  | string s => tagged .string (.string s)
  | boolean b => tagged .boolean (.bool b)
  | date d => tagged .date (.string d.text)
  | datetime t => tagged .datetime (.string t.text)

/-- Read a value of the type. -/
def ofTyped? (type : ScalarType) (j : Json) : Option Scalar :=
  match type with
  | .integer => j.int64?.map integer
  | .float => j.number?.map float
  | .string => j.string?.map string
  | .boolean => j.bool?.map boolean
  | .date => (j.string? >>= Date.ofDocument?).map date
  | .datetime => (j.string? >>= Datetime.ofDocument?).map datetime

/-- Read a value by the name of its type. Null may leave the value out. -/
def ofTag? (tag : String) (value : Option Json) : Option Scalar :=
  if tag = "null" then
    match value with
    | none => some null
    | some .null => some null
    | some _ => none
  else do ofTyped? (← ScalarType.ofName? tag) (← value)

def ofJson? : Json → Option Scalar
  | .array [tag, value] => do ofTag? (← tag.name?) (some value)
  | .object members => do
    let tag ← Json.field? members "type"
    ofTag? (← Json.required? Json.name? tag) (← Json.field? members "value")
  | _ => none

end Scalar

end FieldSearch
