import FieldSearch.Filter.Comparison
import FieldSearch.Schema.Definition
import FieldSearch.Search.Scalar

/-!
# Resolved filters

A filter whose leaves are bound to the schema and whose operands have types. A leaf compares an
attribute of the root, or of what one relation of the root leads to, or asks whether a relation
leads anywhere at all.
-/

namespace FieldSearch

/-- The step over a relation from the entity `source`. -/
structure Traversal where
  source : String
  relation : Relation
  deriving DecidableEq

inductive Operand where
  | single (value : Scalar)
  | list (values : List Scalar)
  deriving DecidableEq

inductive ResolvedLeaf where
  | compare (via : Option Traversal) (entity name : String) (comparison : Comparison)
      (operand : Operand)
  /-- The relation leads to some row, or to none. -/
  | presence (traversal : Traversal) (present : Bool)
  deriving DecidableEq

def ResolvedLeaf.traversal? : ResolvedLeaf → Option Traversal
  | compare via _ _ _ _ => via
  | presence traversal _ => some traversal

inductive ResolvedFilter where
  | leaf (l : ResolvedLeaf)
  | not (child : ResolvedFilter)
  | and (children : List ResolvedFilter)
  | or (children : List ResolvedFilter)

namespace ResolvedFilter

mutual

/-- The leaves from left to right. -/
def leaves : ResolvedFilter → List ResolvedLeaf
  | leaf l => [l]
  | not child => leaves child
  | and children => leavesOf children
  | or children => leavesOf children

def leavesOf : List ResolvedFilter → List ResolvedLeaf
  | [] => []
  | child :: rest => leaves child ++ leavesOf rest

end

/-- The relations that the leaves take, from left to right. -/
def traversals (f : ResolvedFilter) : List Traversal := f.leaves.filterMap (·.traversal?)

end ResolvedFilter

end FieldSearch
