import FieldSearch.Filter.Comparison
import FieldSearch.Json.Value

/-!
# Filters

A filter is a tree of leaves under `not`, `and` and `or`. A leaf compares what a path of names leads
to with an operand, which stays as it was written until the path is resolved.
-/

namespace FieldSearch

structure Leaf where
  path : List String
  comparison : Comparison
  operand : Json
  /-- The leaf as the client wrote it. -/
  source : Json

/-- The entity from which the path starts. -/
def Leaf.entity (l : Leaf) : String := l.path.headD ""

/-- The number of relations that the path names or implies: all but its two ends. -/
def Leaf.hops (l : Leaf) : Nat := l.path.length - 2

inductive Filter where
  | leaf (l : Leaf)
  | not (child : Filter)
  | and (children : List Filter)
  | or (children : List Filter)

namespace Filter

mutual

def leafCount : Filter → Nat
  | leaf _ => 1
  | not child => leafCount child
  | and children => leafCounts children
  | or children => leafCounts children

def leafCounts : List Filter → Nat
  | [] => 0
  | child :: rest => leafCount child + leafCounts rest

end

mutual

/-- The leaves from left to right. -/
def leaves : Filter → List Leaf
  | leaf l => [l]
  | not child => leaves child
  | and children => leavesOf children
  | or children => leavesOf children

def leavesOf : List Filter → List Leaf
  | [] => []
  | child :: rest => leaves child ++ leavesOf rest

end

mutual

def depth : Filter → Nat
  | leaf _ => 1
  | not child => depth child + 1
  | and children => depths children + 1
  | or children => depths children + 1

def depths : List Filter → Nat
  | [] => 0
  | child :: rest => max (depth child) (depths rest)

end

end Filter

end FieldSearch
