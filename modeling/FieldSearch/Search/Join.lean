import FieldSearch.Search.Resolved
import Std.Data.HashMap

/-!
# Join plans

Each relation that a filter takes from an entity has one occurrence of its target in the plan,
however many leaves take it. Occurrences are numbered in the order of first use; occurrence 0 is the
root. A planner keeps an index beside the entries, so that an occurrence is found without a search.
-/

namespace FieldSearch

/-- An occurrence of a table in a plan. -/
structure Occurrence where
  id : UInt32
  deriving DecidableEq

namespace Occurrence

def root : Occurrence := ⟨0⟩

def isRoot (o : Occurrence) : Bool := o == root

/-- The name of the occurrence in a query. -/
def name (o : Occurrence) : String := "t" ++ toString o.id.toNat

end Occurrence

structure JoinEntry where
  occurrence : Occurrence
  source : String
  relation : String
  target : String
  cardinality : Cardinality
  deriving DecidableEq

structure JoinPlan where
  entries : List JoinEntry
  deriving DecidableEq

namespace JoinPlan

def empty : JoinPlan := ⟨[]⟩

/-- The occurrence that a relation of `source` has already. -/
def lookup? (p : JoinPlan) (source relation : String) : Option Occurrence :=
  (p.entries.find? fun e => e.source == source && e.relation == relation).map (·.occurrence)

/-- The occurrence after those in the plan. -/
def next (p : JoinPlan) : Occurrence := ⟨UInt32.ofNat p.entries.length + 1⟩

/-- The occurrence for a traversal, a new one if it has none yet. -/
def allocate (p : JoinPlan) (t : Traversal) : Occurrence × JoinPlan :=
  match p.lookup? t.source t.relation.name with
  | some o => (o, p)
  | none =>
    (p.next,
      ⟨p.entries ++ [⟨p.next, t.source, t.relation.name, t.relation.target,
        t.relation.cardinality⟩]⟩)

/-- Allocate for one traversal after another. -/
def allocateAll (p : JoinPlan) (ts : List Traversal) : JoinPlan :=
  ts.foldl (fun p t => (p.allocate t).2) p

def ofFilter (f : ResolvedFilter) : JoinPlan := empty.allocateAll f.traversals

end JoinPlan

/-- A join plan in the making, with an index of its occurrences. -/
structure JoinPlanner where
  plan : JoinPlan
  /-- By entity and name of the relation. -/
  index : Std.HashMap (String × String) Occurrence

namespace JoinPlanner

def empty : JoinPlanner := ⟨.empty, ∅⟩

def lookup? (p : JoinPlanner) (source relation : String) : Option Occurrence :=
  p.index[(source, relation)]?

/-- The occurrence for a traversal; a new one goes into the plan and into the index. -/
def allocate (p : JoinPlanner) (t : Traversal) : Occurrence × JoinPlanner :=
  match p.lookup? t.source t.relation.name with
  | some o => (o, p)
  | none =>
    (p.plan.next,
      ⟨⟨p.plan.entries ++ [⟨p.plan.next, t.source, t.relation.name, t.relation.target,
        t.relation.cardinality⟩]⟩, p.index.insert (t.source, t.relation.name) p.plan.next⟩)

mutual

/-- Allocate for the leaves of a filter, from left to right. -/
def collect (p : JoinPlanner) : ResolvedFilter → JoinPlanner
  | .leaf l => l.traversal?.elim p fun t => (p.allocate t).2
  | .not child => p.collect child
  | .and children => p.collectAll children
  | .or children => p.collectAll children

def collectAll (p : JoinPlanner) : List ResolvedFilter → JoinPlanner
  | [] => p
  | child :: rest => (p.collect child).collectAll rest

end

def ofFilter (f : ResolvedFilter) : JoinPlanner := empty.collect f

end JoinPlanner

/-- What gives a traversal its occurrence, a new one if it has none yet. -/
class Allocator (σ : Type) where
  allocate : σ → Traversal → Occurrence × σ

instance : Allocator JoinPlan := ⟨JoinPlan.allocate⟩

instance : Allocator JoinPlanner := ⟨JoinPlanner.allocate⟩

end FieldSearch
