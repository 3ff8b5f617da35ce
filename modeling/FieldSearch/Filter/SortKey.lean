import FieldSearch.Search.Error

/-!
# Sort keys

An ordering is a key or an array of keys, each `[entity, attribute, direction]`, or the first two
of these for increasing order.
-/

namespace FieldSearch

inductive SortDirection where
  | asc
  | desc
  deriving DecidableEq, Repr

namespace SortDirection

def name : SortDirection → String
  | asc => "asc"
  | desc => "desc"

def ofName? (s : String) : Option SortDirection := [asc, desc].find? (·.name == s)

/-- The direction that a client names, in capitals or not. -/
def parse? (s : String) : Option SortDirection := ofName? (s.map Char.toLower)

end SortDirection

structure SortKey where
  entity : String
  name : String
  direction : SortDirection
  /-- The key as the client wrote it. -/
  source : Json

namespace SortKey

def direction? (key : Json) : List String → Except SearchError SortDirection
  | [] => .ok .asc
  | s :: _ =>
    match SortDirection.parse? s with
    | some direction => .ok direction
    | none => .error (.invalidDirection s key)

def parse (key : Json) : Except SearchError SortKey :=
  match key with
  | .array items =>
    if items.length < 2 ∨ 3 < items.length then .error (.malformed .keyLength key)
    else
      match items.mapM Json.string? with
      | some (entity :: name :: rest) => do
        pure ⟨entity, name, ← direction? key rest, key⟩
      | _ => .error (.malformed .keyNotStrings key)
  | _ => .error (.malformed .keyNotArray key)

/-- Read an ordering; `null` and an empty array are none. -/
def parseAll (order : Json) : Except SearchError (List SortKey) :=
  match order with
  | .null => .ok []
  | .array [] => .ok []
  | .array (.string _ :: _) => do pure [← parse order]
  | .array keys => keys.mapM parse
  | _ => .error (.malformed .orderNotArray order)

end SortKey

end FieldSearch
