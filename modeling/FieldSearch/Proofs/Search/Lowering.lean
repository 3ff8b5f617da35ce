import FieldSearch.Proofs.Search.JoinPlan
import FieldSearch.Search.Predicate

/-!
# Lowering a resolved filter

A plan that is made from a filter has an occurrence for every traversal in it, so lowering the
filter leaves the plan as it is, and the predicate of a filter is put together from those of its
parts.
-/

namespace FieldSearch

namespace ResolvedFilter

/-- Induction over a filter, with the hypothesis for each of the children. -/
@[elab_as_elim]
theorem induct {motive : ResolvedFilter → Prop} (leaf : ∀ l, motive (.leaf l))
    (not : ∀ child, motive child → motive (.not child))
    (and : ∀ children, (∀ child ∈ children, motive child) → motive (.and children))
    (or : ∀ children, (∀ child ∈ children, motive child) → motive (.or children))
    (f : ResolvedFilter) : motive f :=
  @ResolvedFilter.rec motive (fun fs => ∀ f ∈ fs, motive f) leaf not and or
    (by simp) (fun _ _ first rest => List.forall_mem_cons.mpr ⟨first, rest⟩) f

@[simp]
theorem leavesOf_eq (fs : List ResolvedFilter) : leavesOf fs = fs.flatMap leaves := by
  induction fs with
  | nil => rfl
  | cons f rest ih => rw [leavesOf, ih, List.flatMap_cons]

theorem mem_leavesOf {fs : List ResolvedFilter} {l : ResolvedLeaf} :
    l ∈ leavesOf fs ↔ ∃ f ∈ fs, l ∈ f.leaves := by
  rw [leavesOf_eq, List.mem_flatMap]

theorem traversals_length_le (f : ResolvedFilter) : f.traversals.length ≤ f.leaves.length :=
  List.length_filterMap_le _ _

theorem mem_traversals {f : ResolvedFilter} {t : Traversal} :
    t ∈ f.traversals ↔ ∃ l ∈ f.leaves, l.traversal? = some t := by
  simp [traversals]

end ResolvedFilter

/-- Induction over a predicate, with the hypothesis for each of the parts. -/
@[elab_as_elim]
theorem Predicate.induct {motive : Predicate → Prop}
    (compare : ∀ c comparison v, motive (.compare c comparison v))
    (isIn : ∀ c vs, motive (.isIn c vs)) (isNull : ∀ c, motive (.isNull c))
    (isNotNull : ∀ c, motive (.isNotNull c))
    (exist : ∀ o inner, motive inner → motive (.exist o inner))
    (related : ∀ o present, motive (.related o present))
    (not : ∀ inner, motive inner → motive (.not inner))
    (and : ∀ parts, (∀ part ∈ parts, motive part) → motive (.and parts))
    (or : ∀ parts, (∀ part ∈ parts, motive part) → motive (.or parts))
    (p : Predicate) : motive p :=
  @Predicate.rec motive (fun ps => ∀ p ∈ ps, motive p) compare isIn isNull isNotNull exist related
    not and or (by simp) (fun _ _ first rest => List.forall_mem_cons.mpr ⟨first, rest⟩) p

namespace JoinPlan

/-- The plan has an occurrence for every traversal of the filter. -/
def Serves (p : JoinPlan) (f : ResolvedFilter) : Prop :=
  ∀ l ∈ f.leaves, ∀ t, l.traversal? = some t → p.Has t

theorem ofFilter_serves (f : ResolvedFilter) : (ofFilter f).Serves f := by
  intro l hl t ht
  exact has_allocateAll empty (ResolvedFilter.mem_traversals.mpr ⟨l, hl, ht⟩)

theorem ofFilter_valid (f : ResolvedFilter) : (ofFilter f).Valid :=
  allocateAll_valid valid_empty _

/-- Every entry of the plan of a filter is there for a leaf. -/
theorem mem_ofFilter {f : ResolvedFilter} {e : JoinEntry} (he : e ∈ (ofFilter f).entries) :
    ∃ l ∈ f.leaves, ∃ t, l.traversal? = some t ∧ e.Records t := by
  rcases mem_allocateAll he with he | ⟨t, ht, records⟩
  · cases he
  · obtain ⟨l, hl, hlt⟩ := ResolvedFilter.mem_traversals.mp ht
    exact ⟨l, hl, t, hlt, records⟩

theorem ofFilter_length_le (f : ResolvedFilter) :
    (ofFilter f).entries.length ≤ f.leaves.length := by
  have h := allocateAll_length empty f.traversals
  have := f.traversals_length_le
  simp only [empty, List.length_nil] at h
  rw [ofFilter]
  simp only [empty]
  omega

theorem Serves.child {p : JoinPlan} {f : ResolvedFilter} (serves : p.Serves (.not f)) :
    p.Serves f := serves

theorem Serves.and {p : JoinPlan} {fs : List ResolvedFilter} (serves : p.Serves (.and fs)) :
    ∀ f ∈ fs, p.Serves f := by
  intro f hf l hl
  exact serves l (by simpa [ResolvedFilter.leaves] using ⟨f, hf, hl⟩)

theorem Serves.or {p : JoinPlan} {fs : List ResolvedFilter} (serves : p.Serves (.or fs)) :
    ∀ f ∈ fs, p.Serves f := by
  intro f hf l hl
  exact serves l (by simpa [ResolvedFilter.leaves] using ⟨f, hf, hl⟩)

end JoinPlan

namespace Predicate

variable {p : JoinPlan}

@[simp]
theorem allocate_plan (p : JoinPlan) (t : Traversal) : Allocator.allocate p t = p.allocate t := rfl

/-- The predicate of a filter all of whose traversals are in the plan. -/
def lowered (p : JoinPlan) (f : ResolvedFilter) : Predicate := (ofFilter p f).1

theorem ofLeaf_snd {l : ResolvedLeaf} (h : ∀ t, l.traversal? = some t → p.Has t) :
    (ofLeaf p l).2 = p := by
  cases l with
  | compare via entity name comparison operand =>
    cases via with
    | none => rfl
    | some t =>
      obtain ⟨o, -, ha⟩ := (h t rfl).allocate
      simp only [ofLeaf, allocate_plan, ha]
  | presence t present =>
    obtain ⟨o, -, ha⟩ := (h t rfl).allocate
    simp only [ofLeaf, allocate_plan, ha]

theorem ofFilters_eq {fs : List ResolvedFilter} (h : ∀ f ∈ fs, (ofFilter p f).2 = p) :
    ofFilters p fs = (fs.map (lowered p), p) := by
  induction fs with
  | nil => rfl
  | cons f rest ih =>
    have hf := h f List.mem_cons_self
    have hrest := ih fun g hg => h g (List.mem_cons_of_mem f hg)
    simp only [ofFilters, hf, hrest, List.map_cons, lowered]

/-- Lowering allocates nothing. -/
theorem ofFilter_snd {f : ResolvedFilter} (serves : p.Serves f) : (ofFilter p f).2 = p := by
  induction f using ResolvedFilter.induct with
  | leaf l => exact ofLeaf_snd (serves l List.mem_cons_self)
  | not child ih => exact ih serves.child
  | and children ih =>
    rw [ofFilter, ofFilters_eq fun f hf => ih f hf (serves.and f hf)]
  | or children ih =>
    rw [ofFilter, ofFilters_eq fun f hf => ih f hf (serves.or f hf)]

theorem lowered_not (f : ResolvedFilter) : lowered p (.not f) = not (lowered p f) := rfl

theorem lowered_and {fs : List ResolvedFilter} (serves : p.Serves (.and fs)) :
    lowered p (.and fs) = and (fs.map (lowered p)) := by
  rw [lowered, ofFilter, ofFilters_eq fun f hf => ofFilter_snd (serves.and f hf)]

theorem lowered_or {fs : List ResolvedFilter} (serves : p.Serves (.or fs)) :
    lowered p (.or fs) = or (fs.map (lowered p)) := by
  rw [lowered, ofFilter, ofFilters_eq fun f hf => ofFilter_snd (serves.or f hf)]

theorem lowered_via {t : Traversal} {o : Occurrence} (entity name : String)
    (comparison : Comparison) (operand : Operand) (h : p.allocate t = (o, p)) :
    lowered p (.leaf (.compare (some t) entity name comparison operand)) =
      exist o (ofOperand ⟨o, name⟩ comparison operand) := by
  simp only [lowered, ofFilter, ofLeaf, allocate_plan, h]

theorem lowered_presence {t : Traversal} {o : Occurrence} (present : Bool)
    (h : p.allocate t = (o, p)) :
    lowered p (.leaf (.presence t present)) = related o present := by
  simp only [lowered, ofFilter, ofLeaf, allocate_plan, h]

end Predicate

end FieldSearch
