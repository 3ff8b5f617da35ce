import FieldSearch.Proofs.Search.Lowering
import FieldSearch.Search.Compile

/-!
# Planning with an index

The index of a planner finds what a search of its entries finds. So the joins of a filter are the
join plan of its traversals, and lowering comes to the same with the index as with the search.
-/

namespace FieldSearch

namespace JoinPlan

/-- One more entry is found where nothing was found before. -/
theorem lookup?_append (p : JoinPlan) (e : JoinEntry) (source relation : String) :
    (⟨p.entries ++ [e]⟩ : JoinPlan).lookup? source relation =
      (p.lookup? source relation).or
        (if e.key = (source, relation) then some e.occurrence else none) := by
  rw [lookup?, lookup?, List.find?_append, Option.map_or]
  congr 1
  by_cases h : e.key = (source, relation)
  · cases h
    simp [JoinEntry.key]
  · have hother : (e.source == source && e.relation == relation) = false := by
      simpa [JoinEntry.key] using h
    simp [h, hother]

end JoinPlan

namespace JoinPlanner

/-! ### The index -/

/-- The index finds what a search of the entries finds. -/
def Indexed (p : JoinPlanner) : Prop :=
  ∀ source relation, p.lookup? source relation = p.plan.lookup? source relation

theorem indexed_empty : empty.Indexed := by
  intro source relation
  simp [lookup?, JoinPlan.lookup?, empty, JoinPlan.empty]

variable {p : JoinPlanner}

/-- Allocation is that of the plan, and the index keeps up with it. -/
theorem Indexed.allocate (indexed : p.Indexed) (t : Traversal) :
    (p.allocate t).1 = (p.plan.allocate t).1 ∧ (p.allocate t).2.plan = (p.plan.allocate t).2 ∧
      (p.allocate t).2.Indexed := by
  have hlookup := indexed t.source t.relation.name
  rw [JoinPlanner.allocate, JoinPlan.allocate, hlookup]
  cases h : p.plan.lookup? t.source t.relation.name with
  | some o => exact ⟨rfl, rfl, indexed⟩
  | none =>
    refine ⟨rfl, rfl, fun source relation => ?_⟩
    have hold : p.index[(source, relation)]? = p.plan.lookup? source relation :=
      indexed source relation
    change (p.index.insert t.key p.plan.next)[(source, relation)]? = _
    rw [JoinPlan.lookup?_append, Std.HashMap.getElem?_insert, hold]
    change _ = (p.plan.lookup? source relation).or
      (if t.key = (source, relation) then some p.plan.next else none)
    by_cases hkey : t.key = (source, relation)
    · cases hkey
      simp [h]
    · simp [hkey]

/-! ### Runs -/

/-- What a planner is asked. -/
inductive Call where
  | allocate (t : Traversal)
  | lookup (source relation : String)

def Call.traversal? : Call → Option Traversal
  | allocate t => some t
  | lookup .. => none

/-- The traversals for which calls allocate. -/
def Call.traversals (calls : List Call) : List Traversal := calls.filterMap traversal?

theorem Call.traversals_cons (call : Call) (calls : List Call) :
    traversals (call :: calls) = traversals [call] ++ traversals calls := by
  cases call <;> rfl

/-- The answer to a call, with the planner after it. -/
def step (p : JoinPlanner) : Call → Option Occurrence × JoinPlanner
  | .allocate t => (some (p.allocate t).1, (p.allocate t).2)
  | .lookup source relation => (p.lookup? source relation, p)

/-- The planner after calls, one after another. -/
def run (p : JoinPlanner) (calls : List Call) : JoinPlanner :=
  calls.foldl (fun p call => (p.step call).2) p

theorem run_append (p : JoinPlanner) (before after : List Call) :
    p.run (before ++ after) = (p.run before).run after := List.foldl_append

theorem Indexed.step (indexed : p.Indexed) (call : Call) :
    (p.step call).2.Indexed ∧
      (p.step call).2.plan = p.plan.allocateAll (Call.traversals [call]) := by
  cases call with
  | allocate t =>
    obtain ⟨-, hplan, hindexed⟩ := indexed.allocate t
    exact ⟨hindexed, hplan⟩
  | lookup source relation => exact ⟨indexed, rfl⟩

/-- Calls leave the plan of the traversals for which they allocate. -/
theorem Indexed.run (indexed : p.Indexed) (calls : List Call) :
    (p.run calls).Indexed ∧ (p.run calls).plan = p.plan.allocateAll (Call.traversals calls) := by
  induction calls generalizing p with
  | nil => exact ⟨indexed, rfl⟩
  | cons call rest ih =>
    obtain ⟨hindexed, hplan⟩ := indexed.step call
    obtain ⟨hrun, hrest⟩ := ih hindexed
    refine ⟨hrun, hrest.trans ?_⟩
    rw [hplan, Call.traversals_cons call rest, JoinPlan.allocateAll_append]

theorem run_indexed (calls : List Call) : (empty.run calls).Indexed := (indexed_empty.run calls).1

theorem run_plan (calls : List Call) :
    (empty.run calls).plan = JoinPlan.empty.allocateAll (Call.traversals calls) :=
  (indexed_empty.run calls).2

/-! ### The joins of a filter -/

/-- The calls for the traversals of a filter. -/
def Call.ofFilter (f : ResolvedFilter) : List Call := f.traversals.map .allocate

theorem Call.ofFilter_and (fs : List ResolvedFilter) :
    ofFilter (.and fs) = fs.flatMap ofFilter := by
  simp only [ofFilter, ResolvedFilter.traversals, ResolvedFilter.leaves,
    ResolvedFilter.leavesOf_eq, List.filterMap_flatMap, List.map_flatMap]
  rfl

theorem Call.ofFilter_or (fs : List ResolvedFilter) :
    ofFilter (.or fs) = fs.flatMap ofFilter := Call.ofFilter_and fs

theorem collectAll_eq_run {fs : List ResolvedFilter}
    (each : ∀ f ∈ fs, ∀ p : JoinPlanner, p.collect f = p.run (Call.ofFilter f)) (p : JoinPlanner) :
    p.collectAll fs = p.run (fs.flatMap Call.ofFilter) := by
  induction fs generalizing p with
  | nil => rfl
  | cons f rest ih =>
    obtain ⟨first, others⟩ := List.forall_mem_cons.mp each
    rw [collectAll, first, ih others, List.flatMap_cons, run_append]

/-- Collecting the joins of a filter is a run of the planner. -/
theorem collect_eq_run (p : JoinPlanner) (f : ResolvedFilter) :
    p.collect f = p.run (Call.ofFilter f) := by
  induction f using ResolvedFilter.induct generalizing p with
  | leaf l =>
    cases h : l.traversal? <;>
      simp [collect, Call.ofFilter, ResolvedFilter.traversals, ResolvedFilter.leaves, h, run, step]
  | not child ih => exact ih p
  | and children ih => rw [collect, collectAll_eq_run ih, Call.ofFilter_and]
  | or children ih => rw [collect, collectAll_eq_run ih, Call.ofFilter_or]

/-- The join plan of a filter is the one that a planner makes of its traversals. -/
theorem run_traversals (f : ResolvedFilter) :
    (empty.run (Call.ofFilter f)).plan = JoinPlan.ofFilter f := by
  rw [run_plan, Call.traversals, Call.ofFilter, List.filterMap_map]
  exact congrArg _ List.filterMap_some

theorem ofFilter_plan (f : ResolvedFilter) : (ofFilter f).plan = JoinPlan.ofFilter f := by
  rw [ofFilter, collect_eq_run, run_traversals]

theorem ofFilter_indexed (f : ResolvedFilter) : (ofFilter f).Indexed := by
  rw [ofFilter, collect_eq_run]
  exact run_indexed _

/-! ### Lowering with an index -/

/-- What two ways of lowering come to: the same result, and a planner with the joins of the plan. -/
structure Agrees {α : Type} (indexed : α × JoinPlanner) (searched : α × JoinPlan) : Prop where
  result : indexed.1 = searched.1
  plan : indexed.2.plan = searched.2
  indexed : indexed.2.Indexed

theorem Indexed.ofLeaf (indexed : p.Indexed) (l : ResolvedLeaf) :
    Agrees (Predicate.ofLeaf p l) (Predicate.ofLeaf p.plan l) := by
  cases l with
  | compare via entity name comparison operand =>
    cases via with
    | none => exact ⟨rfl, rfl, indexed⟩
    | some t =>
      obtain ⟨hanswer, hplan, hindexed⟩ := indexed.allocate t
      refine ⟨?_, hplan, hindexed⟩
      exact congrArg (fun o => Predicate.exist o (.ofOperand ⟨o, name⟩ comparison operand)) hanswer
  | presence t present =>
    obtain ⟨hanswer, hplan, hindexed⟩ := indexed.allocate t
    exact ⟨congrArg (Predicate.related · present) hanswer, hplan, hindexed⟩

theorem Indexed.ofFilters {fs : List ResolvedFilter}
    (each : ∀ f ∈ fs, ∀ p : JoinPlanner, p.Indexed →
      Agrees (Predicate.ofFilter p f) (Predicate.ofFilter p.plan f)) (indexed : p.Indexed) :
    Agrees (Predicate.ofFilters p fs) (Predicate.ofFilters p.plan fs) := by
  induction fs generalizing p with
  | nil => exact ⟨rfl, rfl, indexed⟩
  | cons f rest ih =>
    obtain ⟨first, others⟩ := List.forall_mem_cons.mp each
    have hfirst := first p indexed
    have hrest := ih others hfirst.indexed
    rw [hfirst.plan] at hrest
    simp only [Predicate.ofFilters]
    exact ⟨congrArg₂ _ hfirst.result hrest.result, hrest.plan, hrest.indexed⟩

/-- With an index or without, a filter is lowered to the same predicate and the same joins. -/
theorem Indexed.ofFilter (indexed : p.Indexed) (f : ResolvedFilter) :
    Agrees (Predicate.ofFilter p f) (Predicate.ofFilter p.plan f) := by
  induction f using ResolvedFilter.induct generalizing p with
  | leaf l => exact indexed.ofLeaf l
  | not child ih =>
    have h := ih indexed
    exact ⟨congrArg Predicate.not h.result, h.plan, h.indexed⟩
  | and children ih =>
    have h := Indexed.ofFilters (fun f hf p indexed => ih f hf indexed) indexed
    exact ⟨congrArg Predicate.and h.result, h.plan, h.indexed⟩
  | or children ih =>
    have h := Indexed.ofFilters (fun f hf p indexed => ih f hf indexed) indexed
    exact ⟨congrArg Predicate.or h.result, h.plan, h.indexed⟩

end JoinPlanner

namespace Compiler

/-- A filter is lowered over the plan of its joins. -/
theorem lower_eq (f : ResolvedFilter) : lower f = Predicate.ofFilter (JoinPlan.ofFilter f) f := by
  have agrees := (JoinPlanner.ofFilter_indexed f).ofFilter f
  rw [JoinPlanner.ofFilter_plan] at agrees
  exact Prod.ext agrees.result agrees.plan

/-- All joins of a filter are there when it is lowered. -/
theorem lower_lowered (f : ResolvedFilter) :
    lower f = (Predicate.lowered (JoinPlan.ofFilter f) f, JoinPlan.ofFilter f) := by
  rw [lower_eq]
  exact Prod.ext rfl (Predicate.ofFilter_snd (JoinPlan.ofFilter_serves f))

/-- What compilation comes to, without an index. -/
theorem compile_eq (c : Compiler) (name : String) (filter orderBy : Json) (page : Option Page) :
    c.compile name filter orderBy page = (do
      let root ← c.root name
      let resolved ← c.resolve root filter
      let terms ← c.ordering root orderBy
      return ⟨root.name, Predicate.lowered (JoinPlan.ofFilter resolved) resolved,
        (JoinPlan.ofFilter resolved).entries, terms, page⟩) := by
  simp only [compile, lower_lowered]

end Compiler

end FieldSearch
