import FieldSearch.Filter.SortKey
import FieldSearch.Schema.Registry
import FieldSearch.Search.Predicate

/-!
# Orderings

Sort keys bound to columns of the root. The primary key comes last unless a key names it already.
-/

namespace FieldSearch

structure OrderTerm where
  column : Column
  direction : SortDirection
  /-- Texts are compared without regard to ASCII case. -/
  caseInsensitive : Bool
  deriving DecidableEq

namespace OrderTerm

def ofAttribute (a : Attribute) (direction : SortDirection) : OrderTerm :=
  ⟨⟨.root, a.name⟩, direction, a.type.isText⟩

/-- Bind a key: its entity has to be known, and to be the root. -/
def ofKey (registry : Registry) (root : Entity) (key : SortKey) : Except SearchError OrderTerm :=
  match registry.searchable? key.entity with
  | none => .error (.unknownEntity key.entity key.source)
  | some _ =>
    match (if key.entity = root.name then root.attribute? key.name else none) with
    | some a => .ok (ofAttribute a key.direction)
    | none => .error (.unknownAttribute key.entity key.name key.source)

/-- The term that decides between rows which the keys leave equal. -/
def tiebreaker (root : Entity) : OrderTerm :=
  ⟨⟨.root, root.primaryKey⟩, .asc, root.primaryKeyAttribute?.any (·.type.isText)⟩

def ofKeys (registry : Registry) (root : Entity) (keys : List SortKey) :
    Except SearchError (List OrderTerm) := do
  let terms ← keys.mapM (ofKey registry root)
  if terms.any (·.column.name == root.primaryKey) then pure terms
  else pure (terms ++ [tiebreaker root])

end OrderTerm

end FieldSearch
