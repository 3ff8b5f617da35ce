import FieldSearch.Json.Value

/-!
# Records in JSON

A record with named fields is an object, in which unknown keys are passed over and a known key
stands once at most, or an array of the fields in their order, the last of which may be missing. A
name from a closed list is a string, or an object whose only member has that key and no value.
-/

namespace FieldSearch

namespace Json

/-- The value of a field that may be missing; none if the key stands twice. -/
def field? (members : List (String × Json)) (name : String) : Option (Option Json) :=
  match members.filter (·.1 == name) with
  | [] => some none
  | [(_, value)] => some (some value)
  | _ => none

/-- The values of the fields of a record, in the order of `names`. -/
def fields? (names : List String) : Json → Option (List (Option Json))
  | object members => names.mapM (field? members)
  | array items =>
    if items.length ≤ names.length then
      some (items.map some ++ List.replicate (names.length - items.length) none)
    else none
  | _ => none

def name? : Json → Option String
  | string s => some s
  | object [(s, null)] => some s
  | _ => none

/-- Read a field that must be there. -/
def required? {α : Type} (read : Json → Option α) : Option Json → Option α
  | some value => read value
  | none => none

/-- Read a field that has a value of its own if it is missing. -/
def default? {α : Type} (missing : α) (read : Json → Option α) : Option Json → Option α
  | some value => read value
  | none => some missing

/-- Read a field that may be missing or null. -/
def option? {α : Type} (read : Json → Option α) : Option Json → Option (Option α)
  | none => some none
  | some null => some none
  | some value => (read value).map some

def list? {α : Type} (read : Json → Option α) : Json → Option (List α)
  | array items => items.mapM read
  | _ => none

end Json

end FieldSearch
