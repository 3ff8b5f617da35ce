import FieldSearch.Search.Scalar

/-!
# Values in tables and statements

What a cell or a placeholder holds. A truth value is kept as 0 or 1, a date or datetime as text,
whose order is that of time as long as years have no sign.
-/

namespace FieldSearch.Sql

inductive Value where
  | null
  | integer (value : Int64)
  | real (value : Binary64)
  | text (value : String)
  deriving DecidableEq

namespace Value

def ofBool (b : Bool) : Value := integer (if b then 1 else 0)

def ofScalar : Scalar → Value
  | .null => null
  | .integer n => integer n
  | .float x => real x
  | .string s => text s
  | .boolean b => ofBool b
  | .date d => text d.text
  | .datetime t => text t.storageText

/-- The value of a count; one beyond the signed words is the largest of them. -/
def ofCount (n : Nat) : Value := integer (Int64.ofInt (min n Int64.maxValue.toInt))

/-- The value with its type. -/
def toTagged : Value → Json
  | null => .array [.string "null"]
  | integer n => .array [.string "integer", .int n.toInt]
  | real x => .array [.string "float", .float x]
  | text s => .array [.string "string", .string s]

def toJson : Value → Json
  | null => .null
  | integer n => .int n.toInt
  | real x => .float x
  | text s => .string s

/-- The value of a cell in JSON; a truth value becomes a number. -/
def ofJson? : Json → Option Value
  | .null => some null
  | .bool b => some (ofBool b)
  | .int n => (Json.int n).int64?.map integer
  | .float x => some (real x)
  | .string s => some (text s)
  | _ => none

end Value

end FieldSearch.Sql
