import FieldSearch.Json.Value
import FieldSearch.Store.Basic

/-!
# Rows in JSON

A row is an object of the values of its columns, and the content of a store an object of the rows
of its tables.
-/

namespace FieldSearch.Store

open Sql

/-- Read the values of a row. -/
def valuesOfJson? : Json → Option (List (String × Value))
  | .object members => members.mapM fun member => do pure (member.1, ← Value.ofJson? member.2)
  | _ => none

/-- Insert the rows that a member of the content holds. -/
def insertMember? (s : Store) (member : String × Json) : Option Store := do
  let rows ← (← member.2.array?).mapM valuesOfJson?
  match s.insertAll member.1 rows with
  | (s, .ok ()) => some s
  | (_, .error _) => none

/-- A store with the tables of a schema and this content. -/
def ofJson? (registry : Registry) : Json → Option Store
  | .object members =>
    match empty.createSchema registry with
    | (s, .ok ()) => members.foldlM insertMember? s
    | (_, .error _) => none
  | _ => none

end FieldSearch.Store
