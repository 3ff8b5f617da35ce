import FieldSearch.Store.Select

/-!
# Searching the store
-/

namespace FieldSearch

/-- A plan names something unknown to the schema, or the store refuses the statement. -/
inductive ExecutionError where
  | render (cause : Sql.RenderError)
  | store (cause : StoreError)
  deriving DecidableEq

namespace Store

/-- The keys of the rows that a plan asks for. -/
def execute (s : Store) (registry : Registry) (plan : Plan) :
    Except ExecutionError (List Sql.Value) := do
  let f ← (Sql.select registry plan).mapError .render
  (s.run f).mapError .store

/-- The number of rows on all pages of a plan. -/
def count (s : Store) (registry : Registry) (plan : Plan) : Except ExecutionError Nat := do
  let f ← (Sql.count registry plan).mapError .render
  match ← (s.run f).mapError .store with
  | [v] => pure v.toCount
  | _ => pure 0

end Store

end FieldSearch
