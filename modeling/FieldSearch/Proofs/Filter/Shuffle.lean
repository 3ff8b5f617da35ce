import FieldSearch.Proofs.Filter.Grammar
import Mathlib.Data.List.Perm.Basic

/-!
# Filters with their parts in another order

A shuffle puts the parts of conjunctions and disjunctions in another order, anywhere in a filter.
The reader accepts the shuffled node just if it accepts the node, and gives the tree, shuffled
alike. The leaves stay the same, but for their order.
-/

namespace FieldSearch

/-! ### Picking from a list -/

section Pick

variable {α β : Type}

/-- The elements at these places, one after another. -/
def pick (places : List Nat) (as : List α) : List α := places.filterMap (as[·]?)

theorem pick_range (as : List α) : pick (List.range as.length) as = as := by
  induction as with
  | nil => rfl
  | cons a rest ih =>
    rw [pick] at ih
    simp [pick, List.range_succ_eq_map, List.filterMap_map, ih]

/-- Each place once makes another order of the same elements. -/
theorem pick_perm {places : List Nat} {as : List α}
    (perm : places.Perm (List.range as.length)) : (pick places as).Perm as := by
  have h := perm.filterMap (as[·]?)
  rwa [← pick, ← pick, pick_range] at h

theorem map_pick (f : α → β) (places : List Nat) (as : List α) :
    (pick places as).map f = pick places (as.map f) := by
  simp [pick, List.map_filterMap]

/-- Lists that are related place by place are related after the same picks. -/
theorem forall₂_pick {R : α → β → Prop} {as : List α} {bs : List β} (h : List.Forall₂ R as bs)
    (places : List Nat) : List.Forall₂ R (pick places as) (pick places bs) := by
  have related : ∀ i : Nat, Option.Rel R as[i]? bs[i]? := by
    induction h with
    | nil => exact fun _ => .none
    | cons hab _ ih =>
      intro i
      cases i with
      | zero => exact .some hab
      | succ i => simpa using ih i
  refine List.rel_filterMap (R := Eq) ?_ (List.forall₂_refl places)
  rintro i _ rfl
  exact related i

theorem forall₂_zip_right {R : α × β → β → Prop} {as : List α} {bs : List β}
    (hlength : as.length = bs.length) (each : ∀ p ∈ as.zip bs, R p p.2) :
    List.Forall₂ R (as.zip bs) bs := by
  have hsnd : (as.zip bs).map Prod.snd = bs := List.map_snd_zip (Nat.le_of_eq hlength.symm)
  have h : List.Forall₂ R (as.zip bs) ((as.zip bs).map Prod.snd) :=
    List.forall₂_map_right_iff.mpr (List.forall₂_same.mpr each)
  rwa [hsnd] at h

theorem flatMap_perm_of_forall₂ {f : α → List β} {as bs : List α}
    (h : List.Forall₂ (fun a b => (f a).Perm (f b)) as bs) :
    (as.flatMap f).Perm (bs.flatMap f) := by
  induction h with
  | nil => exact .nil
  | cons hab _ ih => exact hab.append ih

end Pick

/-! ### Shuffles -/

/-- Another order of the parts of the conjunctions and disjunctions in a filter. -/
inductive Shuffle where
  | keep
  | not (inner : Shuffle)
  /-- Every part is shuffled, and then the parts at these places follow each other. -/
  | group (places : List Nat) (inner : List Shuffle)

namespace Shuffle

mutual

/-- The node with its parts in the order of the shuffle. -/
def onNode : Shuffle → Json → Json
  | not inner, .array [op, arg] => .array [op, inner.onNode arg]
  | group places inner, .array [op, .array nodes] =>
    .array [op, .array (pick places (onNodes inner nodes))]
  | _, node => node

def onNodes : List Shuffle → List Json → List Json
  | first :: others, node :: nodes => first.onNode node :: onNodes others nodes
  | _, _ => []

end

mutual

def onFilter : Shuffle → Filter → Filter
  | not inner, .not child => .not (inner.onFilter child)
  | group places inner, .and children => .and (pick places (onFilters inner children))
  | group places inner, .or children => .or (pick places (onFilters inner children))
  | _, f => f

def onFilters : List Shuffle → List Filter → List Filter
  | first :: others, f :: fs => first.onFilter f :: onFilters others fs
  | _, _ => []

end

/-- The shuffle does nothing but put the parts of conjunctions and disjunctions of the node in
another order. -/
inductive FitsNode : Shuffle → Json → Prop
  | keep (node : Json) : FitsNode .keep node
  | not {inner : Shuffle} {arg : Json} : FitsNode inner arg →
      FitsNode (.not inner) (.array [.string "not", arg])
  | group {op : String} {places : List Nat} {inner : List Shuffle} {nodes : List Json} :
      op = "and" ∨ op = "or" → places.Perm (List.range nodes.length) →
      inner.length = nodes.length → (∀ p ∈ inner.zip nodes, FitsNode p.1 p.2) →
      FitsNode (.group places inner) (.array [.string op, .array nodes])

inductive FitsFilter : Shuffle → Filter → Prop
  | keep (f : Filter) : FitsFilter .keep f
  | not {inner : Shuffle} {child : Filter} : FitsFilter inner child →
      FitsFilter (.not inner) (.not child)
  | and {places : List Nat} {inner : List Shuffle} {children : List Filter} :
      places.Perm (List.range children.length) → inner.length = children.length →
      (∀ p ∈ inner.zip children, FitsFilter p.1 p.2) →
      FitsFilter (.group places inner) (.and children)
  | or {places : List Nat} {inner : List Shuffle} {children : List Filter} :
      places.Perm (List.range children.length) → inner.length = children.length →
      (∀ p ∈ inner.zip children, FitsFilter p.1 p.2) →
      FitsFilter (.group places inner) (.or children)

@[simp]
theorem onNode_keep (node : Json) : keep.onNode node = node := by
  rw [onNode.eq_def]

@[simp]
theorem onFilter_keep (f : Filter) : keep.onFilter f = f := by
  cases f <;> rfl

theorem onNodes_eq (σs : List Shuffle) (nodes : List Json) :
    onNodes σs nodes = (σs.zip nodes).map fun p => p.1.onNode p.2 := by
  induction σs generalizing nodes with
  | nil => rfl
  | cons σ rest ih =>
    cases nodes with
    | nil => rfl
    | cons node others => rw [onNodes, ih, List.zip_cons_cons, List.map_cons]

theorem onFilters_eq (σs : List Shuffle) (fs : List Filter) :
    onFilters σs fs = (σs.zip fs).map fun p => p.1.onFilter p.2 := by
  induction σs generalizing fs with
  | nil => rfl
  | cons σ rest ih =>
    cases fs with
    | nil => rfl
    | cons f others => rw [onFilters, ih, List.zip_cons_cons, List.map_cons]

variable {σ : Shuffle} {σs : List Shuffle} {places : List Nat}

theorem length_onNodes {nodes : List Json} (hlength : σs.length = nodes.length) :
    (onNodes σs nodes).length = nodes.length := by
  simp [onNodes_eq, hlength]

/-- The parts of a group that was shuffled are those parts, shuffled, in another order. -/
theorem pick_onNodes_perm {nodes : List Json} (perm : places.Perm (List.range nodes.length))
    (hlength : σs.length = nodes.length) :
    (pick places (onNodes σs nodes)).Perm (onNodes σs nodes) :=
  pick_perm (by rwa [length_onNodes hlength])

/-! ### The tree of a shuffled filter -/

section Parts

variable {fs : List Filter} (perm : places.Perm (List.range fs.length))
  (hlength : σs.length = fs.length)

include hlength

/-- What a shuffle keeps of each part it keeps of the list of parts. -/
theorem onFilters_related {R : Filter → Filter → Prop}
    (each : ∀ p ∈ σs.zip fs, R (p.1.onFilter p.2) p.2) : List.Forall₂ R (onFilters σs fs) fs := by
  rw [onFilters_eq, List.forall₂_map_left_iff]
  exact forall₂_zip_right hlength each

theorem length_onFilters : (onFilters σs fs).length = fs.length := by
  simp [onFilters_eq, hlength]

include perm

theorem pick_onFilters_perm : (pick places (onFilters σs fs)).Perm (onFilters σs fs) :=
  pick_perm (by rwa [length_onFilters hlength])

theorem onFilters_leaves
    (each : ∀ p ∈ σs.zip fs, (p.1.onFilter p.2).leaves.Perm p.2.leaves) :
    (Filter.leavesOf (pick places (onFilters σs fs))).Perm (Filter.leavesOf fs) := by
  rw [Filter.leavesOf_eq, Filter.leavesOf_eq]
  exact ((pick_onFilters_perm perm hlength).flatMap_right _).trans
    (flatMap_perm_of_forall₂ (onFilters_related hlength each))

/-- What a shuffle keeps of each part, its list keeps up to the order. -/
theorem onFilters_map {α : Type} {value : Filter → α}
    (each : ∀ p ∈ σs.zip fs, value (p.1.onFilter p.2) = value p.2) :
    ((pick places (onFilters σs fs)).map value).Perm (fs.map value) := by
  have same : (onFilters σs fs).map value = fs.map value := by
    rw [← List.forall₂_eq_eq_eq, List.forall₂_map_left_iff, List.forall₂_map_right_iff]
    exact onFilters_related hlength each
  rw [← same]
  exact (pick_onFilters_perm perm hlength).map value

theorem onFilters_depths
    (each : ∀ p ∈ σs.zip fs, (p.1.onFilter p.2).depth = p.2.depth) :
    Filter.depths (pick places (onFilters σs fs)) = Filter.depths fs := by
  have depths_eq (fs : List Filter) : Filter.depths fs = (fs.map Filter.depth).foldr max 0 := by
    induction fs with
    | nil => rfl
    | cons f rest ih => rw [Filter.depths, ih, List.map_cons, List.foldr_cons]
  rw [depths_eq, depths_eq, (onFilters_map perm hlength each).foldr_eq]

end Parts

/-- The leaves are the same in another order. -/
theorem FitsFilter.leaves {f : Filter} (fits : σ.FitsFilter f) :
    (σ.onFilter f).leaves.Perm f.leaves := by
  induction fits with
  | keep f => rw [onFilter_keep]
  | not _ ih => exact ih
  | and perm hlength _ ih => exact onFilters_leaves perm hlength ih
  | or perm hlength _ ih => exact onFilters_leaves perm hlength ih

theorem FitsFilter.leafCount {f : Filter} (fits : σ.FitsFilter f) :
    (σ.onFilter f).leafCount = f.leafCount := by
  rw [Filter.leafCount_eq, Filter.leafCount_eq, fits.leaves.length_eq]

theorem FitsFilter.depth {f : Filter} (fits : σ.FitsFilter f) :
    (σ.onFilter f).depth = f.depth := by
  induction fits with
  | keep f => rw [onFilter_keep]
  | not _ ih => rw [onFilter, Filter.depth, Filter.depth, ih]
  | and perm hlength _ ih =>
    rw [onFilter, Filter.depth, Filter.depth, onFilters_depths perm hlength ih]
  | or perm hlength _ ih =>
    rw [onFilter, Filter.depth, Filter.depth, onFilters_depths perm hlength ih]

end Shuffle

/-! ### Reading a shuffled node -/

namespace Filter

theorem mirrorsAll_iff {nodes : List Json} {fs : List Filter} :
    MirrorsAll nodes fs ↔ List.Forall₂ Mirrors nodes fs := by
  induction nodes generalizing fs with
  | nil =>
    constructor
    · rintro ⟨⟩
      exact .nil
    · rintro ⟨⟩
      exact .nil
  | cons node rest ih =>
    constructor
    · rintro ⟨⟩
      next first others => exact .cons first (ih.mp others)
    · rintro ⟨⟩
      next first others => exact .cons first (ih.mpr others)

/-- The tree of a conjunction or disjunction. -/
def group (op : String) (children : List Filter) : Filter :=
  if op = "and" then and children else or children

theorem mirrors_not {arg : Json} {f : Filter} :
    Mirrors (.array [.string "not", arg]) f ↔ ∃ child, Mirrors arg child ∧ f = .not child := by
  constructor
  · intro h
    generalize hnode : Json.array [.string "not", arg] = node at h
    cases h with
    | leaf operand hlength => exact absurd hnode.symm (leafNode_ne hlength _ _ _ _)
    | not child =>
      simp only [Json.array.injEq, List.cons.injEq, true_and, and_true] at hnode
      exact ⟨_, hnode ▸ child, rfl⟩
    | and => simp at hnode
    | or => simp at hnode
  · rintro ⟨child, h, rfl⟩
    exact .not h

theorem mirrors_group {op : String} (hop : op = "and" ∨ op = "or") {nodes : List Json}
    {f : Filter} : Mirrors (.array [.string op, .array nodes]) f ↔
      nodes ≠ [] ∧ ∃ children, List.Forall₂ Mirrors nodes children ∧ f = group op children := by
  simp only [← mirrorsAll_iff]
  constructor
  · intro h
    generalize hnode : Json.array [.string op, .array nodes] = node at h
    cases h with
    | leaf operand hlength => exact absurd hnode.symm (leafNode_ne hlength _ _ _ _)
    | not child => rcases hop with rfl | rfl <;> simp at hnode
    | and hne children =>
      simp only [Json.array.injEq, List.cons.injEq, Json.string.injEq, and_true] at hnode
      obtain ⟨rfl, rfl⟩ := hnode
      exact ⟨hne, _, children, rfl⟩
    | or hne children =>
      simp only [Json.array.injEq, List.cons.injEq, Json.string.injEq, and_true] at hnode
      obtain ⟨rfl, rfl⟩ := hnode
      exact ⟨hne, _, children, rfl⟩
  · rintro ⟨hne, children, h, rfl⟩
    rcases hop with rfl | rfl
    · exact .and hne h
    · exact .or hne h

end Filter

namespace Shuffle

open FieldSearch.Filter

variable {σ : Shuffle} {σs : List Shuffle} {places : List Nat}

theorem onFilter_group (op : String) (places : List Nat) (σs : List Shuffle)
    (children : List Filter) : (Shuffle.group places σs).onFilter (Filter.group op children) =
      Filter.group op (pick places (onFilters σs children)) := by
  rw [Filter.group, Filter.group]
  split <;> rfl

theorem fitsFilter_group (op : String) {children : List Filter}
    (perm : places.Perm (List.range children.length)) (hlength : σs.length = children.length)
    (each : ∀ p ∈ σs.zip children, FitsFilter p.1 p.2) :
    FitsFilter (.group places σs) (Filter.group op children) := by
  rw [Filter.group]
  split
  · exact .and perm hlength each
  · exact .or perm hlength each

/-- The trees of parts that are shuffled are the trees of the parts, shuffled alike. -/
theorem onNodes_mirror {nodes : List Json} {fs : List Filter} (hlength : σs.length = nodes.length)
    (each : ∀ p ∈ σs.zip nodes, ∀ f, Mirrors p.2 f →
      FitsFilter p.1 f ∧ Mirrors (p.1.onNode p.2) (p.1.onFilter f))
    (h : List.Forall₂ Mirrors nodes fs) :
    (∀ p ∈ σs.zip fs, FitsFilter p.1 p.2) ∧
      List.Forall₂ Mirrors (onNodes σs nodes) (onFilters σs fs) := by
  induction h generalizing σs with
  | nil =>
    rw [List.length_nil, List.length_eq_zero_iff] at hlength
    subst hlength
    exact ⟨by simp, .nil⟩
  | @cons node f others fs hf _ ih =>
    cases σs with
    | nil => cases hlength
    | cons σ rest =>
      rw [List.zip_cons_cons, List.forall_mem_cons] at each
      obtain ⟨fits, mirrors⟩ := each.1 f hf
      obtain ⟨fitsAll, mirrorsAll⟩ := ih (Nat.succ.inj hlength) each.2
      rw [List.zip_cons_cons, List.forall_mem_cons]
      exact ⟨⟨fits, fitsAll⟩, .cons mirrors mirrorsAll⟩

/-- The tree of a shuffled node is the tree of the node, shuffled alike. -/
theorem FitsNode.mirrors {node : Json} (fits : σ.FitsNode node) {f : Filter} (h : Mirrors node f) :
    σ.FitsFilter f ∧ Mirrors (σ.onNode node) (σ.onFilter f) := by
  induction fits generalizing f with
  | keep node =>
    rw [onNode_keep, onFilter_keep]
    exact ⟨.keep f, h⟩
  | not _ ih =>
    obtain ⟨child, hchild, rfl⟩ := mirrors_not.mp h
    obtain ⟨fits, mirrors⟩ := ih hchild
    exact ⟨.not fits, .not mirrors⟩
  | @group op places σs nodes hop perm hlength _ ih =>
    obtain ⟨hne, children, hchildren, rfl⟩ := (mirrors_group hop).mp h
    obtain ⟨fits, mirrors⟩ := onNodes_mirror hlength (fun p hp f => ih p hp) hchildren
    have hcount := hchildren.length_eq
    refine ⟨fitsFilter_group op (hcount ▸ perm) (hlength.trans hcount) fits, ?_⟩
    have hfull : pick places (onNodes σs nodes) ≠ [] := by
      rw [← List.length_pos_iff, (pick_onNodes_perm perm hlength).length_eq,
        length_onNodes hlength]
      exact List.length_pos_iff.mpr hne
    rw [onFilter_group]
    exact (mirrors_group hop).mpr ⟨hfull, _, forall₂_pick mirrors places, rfl⟩

/-- A node that has a tree after it was shuffled had one before. -/
theorem FitsNode.exists_mirrors {node : Json} (fits : σ.FitsNode node) {g : Filter}
    (h : Mirrors (σ.onNode node) g) : ∃ f, Mirrors node f := by
  induction fits generalizing g with
  | keep node => exact ⟨g, by rwa [onNode_keep] at h⟩
  | not _ ih =>
    obtain ⟨child, hchild, rfl⟩ := mirrors_not.mp h
    obtain ⟨f, hf⟩ := ih hchild
    exact ⟨.not f, .not hf⟩
  | @group op places σs nodes hop perm hlength _ ih =>
    obtain ⟨hfull, children, hchildren, rfl⟩ := (mirrors_group hop).mp h
    have hne : nodes ≠ [] := by
      rintro rfl
      exact hfull (by simp [onNodes_eq, pick])
    -- Every node stands somewhere among the shuffled ones, each of which has a tree.
    have each : ∀ node ∈ nodes, ∃ f, Mirrors node f := by
      intro node hnode
      obtain ⟨p, hp, rfl⟩ := forall₂_mem_right (forall₂_zip_right hlength fun _ _ => rfl) hnode
      have hmem : p.1.onNode p.2 ∈ pick places (onNodes σs nodes) := by
        rw [(pick_onNodes_perm perm hlength).mem_iff, onNodes_eq]
        exact List.mem_map_of_mem hp
      obtain ⟨child, -, hchild⟩ := forall₂_mem_left hchildren hmem
      exact ih p hp hchild
    obtain ⟨fs, hfs⟩ := exists_forall₂ each
    exact ⟨Filter.group op fs, (mirrors_group hop).mpr ⟨hne, fs, hfs, rfl⟩⟩

section Reading

variable {node : Json} (fits : σ.FitsNode node) {bounds : Bounds}

include fits

/-- What a node is read as is shuffled with the node. -/
theorem FitsNode.parse {f : Filter} (h : Filter.parse bounds node = .ok f) :
    σ.FitsFilter f ∧ Filter.parse bounds (σ.onNode node) = .ok (σ.onFilter f) := by
  obtain ⟨hf, hdepth, hleaves⟩ := parse_eq_ok.mp h
  obtain ⟨fitsFilter, mirrors⟩ := fits.mirrors hf
  refine ⟨fitsFilter, parse_eq_ok.mpr ⟨mirrors, ?_, ?_⟩⟩
  · rwa [fitsFilter.depth]
  · rwa [fitsFilter.leafCount]

/-- A node is read after it was shuffled just if it is read before. -/
theorem FitsNode.exists_parse :
    (∃ g, Filter.parse bounds (σ.onNode node) = .ok g) ↔ ∃ f, Filter.parse bounds node = .ok f := by
  constructor
  · rintro ⟨g, h⟩
    obtain ⟨hg, hdepth, hleaves⟩ := parse_eq_ok.mp h
    obtain ⟨f, hf⟩ := fits.exists_mirrors hg
    obtain ⟨fitsFilter, mirrors⟩ := fits.mirrors hf
    -- Both trees have the complexity that is counted on the shuffled node.
    have same := hg.measure.symm.trans mirrors.measure
    rw [Complexity.mk.injEq, fitsFilter.depth, fitsFilter.leafCount] at same
    exact ⟨f, parse_eq_ok.mpr ⟨hf, same.1 ▸ hdepth, same.2 ▸ hleaves⟩⟩
  · rintro ⟨f, h⟩
    exact ⟨σ.onFilter f, (fits.parse h).2⟩

end Reading

end Shuffle

end FieldSearch
