import FieldSearch.Filter.Basic
import FieldSearch.Filter.Complexity
import FieldSearch.Search.Error

/-!
# Reading filters

A filter is `["not", filter]`, `["and", [filter, ...]]`, `["or", [filter, ...]]`, or a leaf: an
array of names, a comparison token and an operand, `[entity, name, token, operand]` in the shortest
case. Its complexity is checked before anything is read.
-/

namespace FieldSearch

structure Bounds where
  maxDepth : Nat
  maxLeaves : Nat
  deriving DecidableEq

namespace Filter

/-- The error of a filter that is over the bounds. -/
def tooComplex (bounds : Bounds) (depth leaves : Nat) : SearchError :=
  .tooComplex depth leaves bounds.maxDepth bounds.maxLeaves

/-- Read the names of a path. -/
def readPath (node : Json) : List Json → Except SearchError (List String)
  | [] => .ok []
  | .string s :: rest => do pure (s :: (← readPath node rest))
  | _ :: _ => .error (.malformed .nameNotString node)

/-- Read an array whose last two items are token and operand. -/
def readLeaf (node : Json) (path : List Json) (token operand : Json) :
    Except SearchError Filter := do
  let path ← readPath node path
  match token with
  | .string token =>
    match Comparison.ofToken? token with
    | some comparison => pure (.leaf ⟨path, comparison, operand, node⟩)
    | none => throw (.unknownToken token node)
  | _ => throw (.malformed .tokenNotString node)

def isString : Json → Bool
  | .string _ => true
  | _ => false

/-- Read an array that is no `not`, `and` or `or`. From six items on, what does not begin like a
path counts as an array of the wrong length. -/
def readItems (node : Json) (items : List Json) : Except SearchError Filter :=
  match items.reverse with
  | [] => .error (.malformed .empty node)
  | [_, _] => .error (.malformed .unknownOperator node)
  | operand :: token :: path =>
    if path.length = 2 ∨ path.length = 3 ∨ (4 ≤ path.length ∧ path.all isString) then
      readLeaf node path.reverse token operand
    else .error (.invalidArity items.length node)
  | _ => .error (.invalidArity items.length node)

mutual

/-- Read a node at a depth, which is checked again on the way down. -/
def readNode (bounds : Bounds) (depth : Nat) (node : Json) : Except SearchError Filter :=
  if bounds.maxDepth < depth then .error (tooComplex bounds depth 0)
  else
    match node with
    | .array [.string op, arg] =>
      if op = "not" then not <$> readNode bounds (depth + 1) arg
      else if op = "and" ∨ op = "or" then
        match arg with
        | .array [] => .error (.malformed .noChildren (.array [.string op, arg]))
        | .array children => do
          let children ← readNodes bounds (depth + 1) children
          pure (if op = "and" then and children else or children)
        | _ => .error (.malformed .childrenNotArray (.array [.string op, arg]))
      else .error (.malformed .unknownOperator (.array [.string op, arg]))
    | .array items => readItems (.array items) items
    | node => .error (.malformed .notArray node)

def readNodes (bounds : Bounds) (depth : Nat) : List Json → Except SearchError (List Filter)
  | [] => .ok []
  | node :: rest => do
    let filter ← readNode bounds depth node
    let filters ← readNodes bounds depth rest
    pure (filter :: filters)

end

/-- Read a filter within bounds. -/
def parse (bounds : Bounds) (filter : Json) : Except SearchError Filter :=
  let complexity := Complexity.ofFilter filter
  if bounds.maxDepth < complexity.depth ∨ bounds.maxLeaves < complexity.leaves then
    .error (tooComplex bounds complexity.depth complexity.leaves)
  else readNode bounds 1 filter

end Filter

end FieldSearch
