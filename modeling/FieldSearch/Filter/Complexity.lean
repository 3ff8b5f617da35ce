import FieldSearch.Json.Value

/-!
# The complexity of a filter

Nesting and number of leaves of a filter before it is read. What is no `not`, `and` or `or` counts
as a leaf, whether it can be read as one or not. The nodes are visited with a stack, so that no
filter is nested too deep to be measured.
-/

namespace FieldSearch

structure Complexity where
  depth : Nat
  leaves : Nat
  deriving DecidableEq, Repr

namespace Complexity

/-- The measure of something that is not taken apart. -/
def single : Complexity := ⟨1, 1⟩

/-- One level more. -/
def under (c : Complexity) : Complexity := ⟨c.depth + 1, c.leaves⟩

def beside (c d : Complexity) : Complexity := ⟨max c.depth d.depth, c.leaves + d.leaves⟩

end Complexity

mutual

def measure : Json → Complexity
  | .array [.string op, arg] =>
    if op = "not" then (measure arg).under
    else if op = "and" ∨ op = "or" then
      match arg with
      | .array children => (measureAll children).under
      | _ => .single
    else .single
  | _ => .single

def measureAll : List Json → Complexity
  | [] => ⟨0, 0⟩
  | child :: rest => (measure child).beside (measureAll rest)

end

mutual

/-- The number of nodes that are visited. -/
def nodeCount : Json → Nat
  | .array [.string op, arg] =>
    if op = "not" then nodeCount arg + 1
    else if op = "and" ∨ op = "or" then
      match arg with
      | .array children => nodeCounts children + 1
      | _ => 1
    else 1
  | _ => 1

def nodeCounts : List Json → Nat
  | [] => 0
  | child :: rest => nodeCount child + nodeCounts rest

end

/-- The nodes under a `not`, `and` or `or`. -/
def parts? : Json → Option (List Json)
  | .array [.string op, arg] =>
    if op = "not" then some [arg]
    else if op = "and" ∨ op = "or" then arg.array?
    else none
  | _ => none

/-- A walk over a filter: the nodes that are still to be visited, the next one first, each with its
depth, and what has been found. -/
structure Walk where
  stack : List (Json × Nat)
  found : Complexity

namespace Walk

def start (filter : Json) : Walk := ⟨[(filter, 1)], ⟨0, 0⟩⟩

/-- Visit a node. What is under it is put on the stack, so that the last part comes next. -/
def step (w : Walk) : Walk :=
  match w.stack with
  | [] => w
  | (node, depth) :: rest =>
    let deepest := max w.found.depth depth
    match parts? node with
    | some parts => ⟨(parts.map (·, depth + 1)).reverse ++ rest, ⟨deepest, w.found.leaves⟩⟩
    | none => ⟨rest, ⟨deepest, w.found.leaves + 1⟩⟩

def run : Nat → Walk → Walk
  | 0, w => w
  | n + 1, w => run n w.step

end Walk

/-- What a walk over all nodes of a filter finds. -/
def Complexity.ofFilter (filter : Json) : Complexity :=
  ((Walk.start filter).run (nodeCount filter)).found

end FieldSearch
