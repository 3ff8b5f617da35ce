import FieldSearch.Proofs.Filter.Bounds
import FieldSearch.Proofs.Filter.Shuffle
import FieldSearch.Schema.Definition

/-!
# Membership leaves and the equalities in their place

One leaf of a filter asks whether a path leads to a member of a list. In its place the disjunction
of equalities with the members is put. A node is read after this just if it is read before and the
disjunction is within the bounds, and the trees differ in the same place.
-/

namespace FieldSearch

/-- The path names a relation of the entity. What it names is compared with null only. -/
def Entity.PathOfRelation (root : Entity) (path : List String) : Prop :=
  ∃ r ∈ root.relations, path = [root.name, r.name]

namespace Filter

/-- A leaf that asks for a member of a list, and the leaves that ask for one member each. -/
structure Enumerates (root : Entity) (path : List String) (inToken eqToken : String)
    (vs : List Json) : Prop where
  length : 2 ≤ path.length
  scalar : ¬ root.PathOfRelation path
  membership : (inToken, .isIn) ∈ Comparison.tokenTable
  equality : (eqToken, .eq) ∈ Comparison.tokenTable
  full : vs ≠ []

/-- The second node has a disjunction of equalities in the place of one membership leaf. -/
inductive NodeEnumerated (root : Entity) : Json → Json → Prop
  | leaf {path : List String} {inToken eqToken : String} {vs : List Json} :
      Enumerates root path inToken eqToken vs →
      NodeEnumerated root (leafNode path inToken (.array vs))
        (.array [.string "or", .array (vs.map (leafNode path eqToken))])
  | not {arg arg' : Json} : NodeEnumerated root arg arg' →
      NodeEnumerated root (.array [.string "not", arg]) (.array [.string "not", arg'])
  | group {op : String} {before after : List Json} {node node' : Json} : op = "and" ∨ op = "or" →
      NodeEnumerated root node node' →
      NodeEnumerated root (.array [.string op, .array (before ++ node :: after)])
        (.array [.string op, .array (before ++ node' :: after)])

/-- The second tree has a disjunction of equalities in the place of one membership leaf. -/
inductive Enumerated (root : Entity) : Filter → Filter → Prop
  | leaf {path : List String} {vs : List Json} (source : Json) (sources : Json → Json) :
      ¬ root.PathOfRelation path → vs ≠ [] →
      Enumerated root (.leaf ⟨path, .isIn, .array vs, source⟩)
        (.or (vs.map fun v => .leaf ⟨path, .eq, v, sources v⟩))
  | not {child child' : Filter} : Enumerated root child child' →
      Enumerated root (.not child) (.not child')
  | and {before after : List Filter} {child child' : Filter} : Enumerated root child child' →
      Enumerated root (.and (before ++ child :: after)) (.and (before ++ child' :: after))
  | or {before after : List Filter} {child child' : Filter} : Enumerated root child child' →
      Enumerated root (.or (before ++ child :: after)) (.or (before ++ child' :: after))

variable {root : Entity}

theorem Enumerated.group {child child' : Filter} (h : Enumerated root child child') (op : String)
    (before after : List Filter) :
    Enumerated root (Filter.group op (before ++ child :: after))
      (Filter.group op (before ++ child' :: after)) := by
  rw [Filter.group, Filter.group]
  split
  · exact .and h
  · exact .or h

/-! ### Size -/

theorem depths_replace (before after : List Filter) {child child' : Filter}
    (h : child.depth ≤ child'.depth) :
    depths (before ++ child :: after) ≤ depths (before ++ child' :: after) := by
  induction before with
  | nil => simp only [List.nil_append, depths]; omega
  | cons first rest ih => simp only [List.cons_append, depths]; omega

theorem leafCounts_replace (before after : List Filter) {child child' : Filter}
    (h : child.leafCount ≤ child'.leafCount) :
    leafCounts (before ++ child :: after) ≤ leafCounts (before ++ child' :: after) := by
  induction before with
  | nil => simp only [List.nil_append, leafCounts]; omega
  | cons first rest ih => simp only [List.cons_append, leafCounts]; omega

theorem leafCounts_leaves (leaf : Json → Leaf) (vs : List Json) :
    leafCounts (vs.map fun v => .leaf (leaf v)) = vs.length := by
  induction vs with
  | nil => rfl
  | cons v rest ih =>
    simp only [List.map_cons, leafCounts, leafCount, ih, List.length_cons]
    omega

/-- The tree grows. -/
theorem Enumerated.size {f f' : Filter} (h : Enumerated root f f') :
    f.depth ≤ f'.depth ∧ f.leafCount ≤ f'.leafCount := by
  induction h with
  | leaf source sources _ full =>
    have hpositive := List.length_pos_iff.mpr full
    simp only [depth, leafCount, leafCounts_leaves]
    omega
  | not _ ih =>
    simp only [depth, leafCount]
    omega
  | @and before after _ _ _ ih =>
    have hdepth := depths_replace before after ih.1
    have hcount := leafCounts_replace before after ih.2
    simp only [depth, leafCount]
    omega
  | @or before after _ _ _ ih =>
    have hdepth := depths_replace before after ih.1
    have hcount := leafCounts_replace before after ih.2
    simp only [depth, leafCount]
    omega

/-! ### Reading -/

/-- A node has one tree. -/
theorem Mirrors.unique {node : Json} {f g : Filter} (hf : Mirrors node f) (hg : Mirrors node g) :
    f = g := by
  have same := hf.measure.symm.trans hg.measure
  have hdepth : f.depth = g.depth := congrArg Complexity.depth same
  have first := hf.readNode ⟨f.depth, 0⟩ 1 (by simp only; omega)
  have second := hg.readNode ⟨f.depth, 0⟩ 1 (by simp only; omega)
  exact Except.ok.inj (first.symm.trans second)

theorem mirrors_leafNodes {path : List String} {token : String} {comparison : Comparison}
    (hlength : 2 ≤ path.length) (known : (token, comparison) ∈ Comparison.tokenTable)
    (vs : List Json) :
    List.Forall₂ Mirrors (vs.map (leafNode path token))
      (vs.map fun v => .leaf ⟨path, comparison, v, leafNode path token v⟩) := by
  rw [List.forall₂_map_left_iff, List.forall₂_map_right_iff, List.forall₂_same]
  exact fun v _ => .leaf v hlength known

theorem Enumerates.trees {path : List String} {inToken eqToken : String} {vs : List Json}
    (h : Enumerates root path inToken eqToken vs) :
    ∃ f f', Mirrors (leafNode path inToken (.array vs)) f ∧
      Mirrors (.array [.string "or", .array (vs.map (leafNode path eqToken))]) f' ∧
      Enumerated root f f' := by
  refine ⟨_, _, .leaf _ h.length h.membership, ?_,
    .leaf _ (leafNode path eqToken) h.scalar h.full⟩
  have full : vs.map (leafNode path eqToken) ≠ [] := by simpa using h.full
  exact (mirrors_group (.inr rfl)).mpr
    ⟨full, _, mirrors_leafNodes h.length h.equality vs, rfl⟩

/-- Either node has a tree if the other has, and the trees differ as the nodes do. -/
theorem NodeEnumerated.mirrors {node node' : Json} (h : NodeEnumerated root node node') :
    (∀ f, Mirrors node f → ∃ f', Mirrors node' f' ∧ Enumerated root f f') ∧
      ∀ f', Mirrors node' f' → ∃ f, Mirrors node f ∧ Enumerated root f f' := by
  induction h with
  | leaf h =>
    obtain ⟨f, f', hf, hf', enumerated⟩ := h.trees
    constructor
    · intro g hg
      exact ⟨f', hf', hg.unique hf ▸ enumerated⟩
    · intro g hg
      exact ⟨f, hf, hg.unique hf' ▸ enumerated⟩
  | not _ ih =>
    constructor
    · intro f hf
      obtain ⟨child, hchild, rfl⟩ := mirrors_not.mp hf
      obtain ⟨child', hchild', enumerated⟩ := ih.1 child hchild
      exact ⟨.not child', .not hchild', .not enumerated⟩
    · intro f' hf'
      obtain ⟨child', hchild', rfl⟩ := mirrors_not.mp hf'
      obtain ⟨child, hchild, enumerated⟩ := ih.2 child' hchild'
      exact ⟨.not child, .not hchild, .not enumerated⟩
  | @group op before after _ _ hop _ ih =>
    simp only [mirrors_group hop, forall₂_append_cons]
    constructor
    · rintro _ ⟨-, _, ⟨fs, child, gs, hbefore, hchild, hafter, rfl⟩, rfl⟩
      obtain ⟨child', hchild', enumerated⟩ := ih.1 child hchild
      exact ⟨_, ⟨by simp, _, ⟨fs, child', gs, hbefore, hchild', hafter, rfl⟩, rfl⟩,
        enumerated.group op fs gs⟩
    · rintro _ ⟨-, _, ⟨fs, child', gs, hbefore, hchild', hafter, rfl⟩, rfl⟩
      obtain ⟨child, hchild, enumerated⟩ := ih.2 child' hchild'
      exact ⟨_, ⟨by simp, _, ⟨fs, child, gs, hbefore, hchild, hafter, rfl⟩, rfl⟩,
        enumerated.group op fs gs⟩

variable {node node' : Json} (h : NodeEnumerated root node node') {bounds : Bounds}

include h

theorem NodeEnumerated.parse {f f' : Filter} (hf : parse bounds node = .ok f)
    (hf' : parse bounds node' = .ok f') : Enumerated root f f' := by
  obtain ⟨g, hg, enumerated⟩ := h.mirrors.1 f (parse_eq_ok.mp hf).1
  exact hg.unique (parse_eq_ok.mp hf').1 ▸ enumerated

/-- The second node is read just if the first one is and the second is within the bounds. -/
theorem NodeEnumerated.exists_parse :
    (∃ f', Filter.parse bounds node' = .ok f') ↔
      (∃ f, Filter.parse bounds node = .ok f) ∧ ¬ Over bounds (measure node') := by
  simp only [parse_eq_ok, Over]
  constructor
  · rintro ⟨f', hf', hdepth, hleaves⟩
    obtain ⟨f, hf, enumerated⟩ := h.mirrors.2 f' hf'
    have size := enumerated.size
    rw [hf'.measure]
    exact ⟨⟨f, hf, by omega, by omega⟩, by simp only; omega⟩
  · rintro ⟨⟨f, hf, -⟩, within⟩
    obtain ⟨f', hf', -⟩ := h.mirrors.1 f hf
    rw [hf'.measure] at within
    simp only at within
    exact ⟨f', hf', by omega, by omega⟩

end Filter

end FieldSearch
