import FieldSearch.Proofs.Filter.Reading
import FieldSearch.Proofs.Schema.Consistency
import FieldSearch.Search.Resolve

/-!
# What filters resolve to

A leaf resolves to a comparison of an attribute that exists, of the root or of the target of one of
its relations, with an operand of the attribute's type; or to a test of a relation of the root.
-/

namespace FieldSearch

/-- What an operand of a comparison with an attribute of the type is. -/
inductive Operand.Fits (comparison : Comparison) (type : ScalarType) : Operand → Prop
  | null : comparison.isEquality = true → Fits comparison type (.single .null)
  | single {v : Scalar} : comparison ≠ .isIn → v.type? = some type →
      (∀ p, comparison = .regex → v = .string p → Pattern.isValid p = true) →
      Fits comparison type (.single v)
  | list {vs : List Scalar} : comparison = .isIn → (∀ v ∈ vs, v = .null ∨ v.type? = some type) →
      Fits comparison type (.list vs)

/-- What a leaf of a search of `root` resolves to. -/
inductive ResolvedLeaf.Sound (registry : Registry) (root : Entity) : ResolvedLeaf → Prop
  | direct {a : Attribute} {comparison : Comparison} {operand : Operand} :
      root.attribute? a.name = some a → comparison.accepts a.type = true →
      operand.Fits comparison a.type →
      Sound registry root (.compare none root.name a.name comparison operand)
  | via {r : Relation} {target : Entity} {a : Attribute} {comparison : Comparison}
      {operand : Operand} :
      r ∈ root.relations → registry.entity? r.target = some target →
      target.attribute? a.name = some a → comparison.accepts a.type = true →
      operand.Fits comparison a.type →
      Sound registry root (.compare (some ⟨root.name, r⟩) target.name a.name comparison operand)
  | presence {r : Relation} (present : Bool) :
      r ∈ root.relations → Sound registry root (.presence ⟨root.name, r⟩ present)

inductive ResolvedFilter.Sound (registry : Registry) (root : Entity) : ResolvedFilter → Prop
  | leaf {l : ResolvedLeaf} : l.Sound registry root → Sound registry root (.leaf l)
  | not {child : ResolvedFilter} : Sound registry root child → Sound registry root (.not child)
  | and {children : List ResolvedFilter} : children ≠ [] →
      (∀ child ∈ children, Sound registry root child) → Sound registry root (.and children)
  | or {children : List ResolvedFilter} : children ≠ [] →
      (∀ child ∈ children, Sound registry root child) → Sound registry root (.or children)

namespace Scope

variable {scope : Scope}

theorem convert?_type {type : ScalarType} {j : Json} {v : Scalar}
    (h : scope.convert? type j = some v) : v.type? = some type := by
  cases type <;>
    · simp only [convert?, Option.map_eq_some_iff] at h
      obtain ⟨_, -, rfl⟩ := h
      rfl

theorem value_type {type : ScalarType} {j : Json} {v : Scalar} (h : scope.value type j = .ok v) :
    j.isNull = true ∧ v = .null ∨ j.isNull = false ∧ v.type? = some type := by
  unfold value at h
  split at h
  next => cases h; exact .inl ⟨rfl, rfl⟩
  next hnull =>
    split at h
    next hv =>
      cases h
      refine .inr ⟨?_, convert?_type hv⟩
      cases j with
      | null => exact (hnull rfl).elim
      | _ => rfl
    next => cases h

theorem values_type {type : ScalarType} {js : List Json} {vs : List Scalar}
    (h : scope.values type js = .ok vs) : ∀ v ∈ vs, v = .null ∨ v.type? = some type := by
  induction js generalizing vs with
  | nil => cases h; simp
  | cons j rest ih =>
    rw [values] at h
    obtain ⟨v, hv, h⟩ := bind_eq_ok.mp h
    obtain ⟨others, hothers, h⟩ := bind_eq_ok.mp h
    cases h
    refine List.forall_mem_cons.mpr ⟨?_, ih hothers⟩
    exact (value_type hv).imp And.right And.right

/-- A conversion that succeeds has an operand that fits. -/
theorem operand_fits {comparison : Comparison} {type : ScalarType} {j : Json} {operand : Operand}
    (h : scope.operand comparison type j = .ok operand) : operand.Fits comparison type := by
  unfold Scope.operand at h
  split at h
  next isIn =>
    split at h
    · obtain ⟨vs, hvs, rfl⟩ := map_eq_ok.mp h
      exact .list isIn (values_type hvs)
    · cases h
  next notIn =>
    split at h
    next => cases h
    next equality =>
      obtain ⟨v, hv, h⟩ := bind_eq_ok.mp h
      obtain ⟨⟨⟩, hpattern, h⟩ := bind_eq_ok.mp h
      cases h
      rcases value_type hv with ⟨hnull, rfl⟩ | ⟨-, htype⟩
      · refine .null ?_
        revert notIn equality
        cases comparison <;>
          simp [hnull, Comparison.isOrdering, Comparison.isPattern, Comparison.isEquality]
      · refine .single notIn htype ?_
        rintro p rfl rfl
        simp only [checkPattern] at hpattern
        split at hpattern
        · assumption
        · cases hpattern

theorem compareLeaf_eq_ok {l : Leaf} {via : Option Relation} {entity : Entity} {a : Attribute}
    {resolved : ResolvedLeaf} (h : scope.compareLeaf l via entity a = .ok resolved) :
    l.comparison.accepts a.type = true ∧ ∃ operand, operand.Fits l.comparison a.type ∧
      resolved = .compare (via.map fun r => ⟨scope.root.name, r⟩) entity.name a.name l.comparison
        operand := by
  unfold compareLeaf at h
  split at h
  next => cases h
  next accepts =>
    split at h
    next operand hoperand =>
      cases h
      exact ⟨by simpa using accepts, operand, operand_fits hoperand, rfl⟩
    next => cases h

theorem compareLeaf_direct {l : Leaf} {a : Attribute} {resolved : ResolvedLeaf} {name : String}
    (ha : scope.root.attribute? name = some a)
    (h : scope.compareLeaf l none scope.root a = .ok resolved) :
    resolved.Sound scope.registry scope.root := by
  obtain ⟨accepts, operand, fits, rfl⟩ := compareLeaf_eq_ok h
  exact .direct (Entity.attribute?_name ha) accepts fits

theorem compareLeaf_via {l : Leaf} {r : Relation} {target : Entity} {a : Attribute}
    {resolved : ResolvedLeaf} {name : String} (hr : r ∈ scope.root.relations)
    (ht : scope.registry.entity? r.target = some target) (ha : target.attribute? name = some a)
    (h : scope.compareLeaf l (some r) target a = .ok resolved) :
    resolved.Sound scope.registry scope.root := by
  obtain ⟨accepts, operand, fits, rfl⟩ := compareLeaf_eq_ok h
  exact .via hr ht (Entity.attribute?_name ha) accepts fits

theorem presenceLeaf_sound {l : Leaf} {name : String} {r : Relation} {resolved : ResolvedLeaf}
    (hr : scope.root.relation? name = some r)
    (h : presenceLeaf l scope.root r = .ok resolved) :
    resolved.Sound scope.registry scope.root := by
  unfold presenceLeaf at h
  split at h
  · cases h
  · cases h
    exact .presence _ (Entity.relation?_eq_some hr).1

theorem defaultTraversal_eq_ok {l : Leaf} {name : String} {r : Relation}
    (h : scope.defaultTraversal l name = .ok r) :
    scope.root.defaultTraversal? name = some r := by
  unfold defaultTraversal at h
  split at h
  next found => cases h; exact found
  next => cases h

variable (consistent : scope.registry.Consistent) (hroot : scope.root ∈ scope.registry.entities)

include consistent hroot

theorem rootName_sound {l : Leaf} {name : String} {resolved : ResolvedLeaf}
    (h : scope.rootName l name = .ok resolved) : resolved.Sound scope.registry scope.root := by
  unfold rootName at h
  split at h
  next a ha => exact compareLeaf_direct ha h
  next =>
    split at h
    next r hr => exact presenceLeaf_sound hr h
    next =>
      split at h
      next => cases h
      next target other hother =>
        obtain ⟨r, hr, h⟩ := bind_eq_ok.mp h
        have found := defaultTraversal_eq_ok hr
        have ht := consistent.entityOrAlias?_default hroot found hother
        split at h
        next a ha =>
          have hkey := (Option.filter_eq_some_iff.mp ha).1
          exact compareLeaf_via (Entity.defaultTraversal?_eq_some found).1 ht hkey h
        next => cases h

theorem viaDefault_sound {l : Leaf} {entity : Entity} {other : Option EntityAlias} {name : String}
    {resolved : ResolvedLeaf}
    (hentity : scope.registry.entityOrAlias? l.entity = some (entity, other))
    (h : scope.viaDefault l entity other name = .ok resolved) :
    resolved.Sound scope.registry scope.root := by
  unfold viaDefault at h
  obtain ⟨r, hr, h⟩ := bind_eq_ok.mp h
  have found := defaultTraversal_eq_ok hr
  have ht := consistent.entityOrAlias?_default hroot found hentity
  by_cases allowed : other.all (·.allows name) = true
  · simp only [allowed, Bool.not_true, Bool.false_eq_true, if_false] at h
    split at h
    next a ha => exact compareLeaf_via (Entity.defaultTraversal?_eq_some found).1 ht ha h
    next => split at h <;> cases h
  · simp only [allowed, Bool.not_false, if_true] at h
    cases h

omit consistent hroot in
theorem viaRelation_sound {l : Leaf} {relation name : String} {resolved : ResolvedLeaf}
    (h : scope.viaRelation l relation name = .ok resolved) :
    resolved.Sound scope.registry scope.root := by
  unfold viaRelation at h
  split at h
  next => cases h
  next r hr =>
    split at h
    next => cases h
    next target ht =>
      split at h
      next a ha => exact compareLeaf_via (Entity.relation?_eq_some hr).1 ht ha h
      next => split at h <;> cases h

theorem leaf_sound {l : Leaf} {resolved : ResolvedLeaf} (h : scope.leaf l = .ok resolved) :
    resolved.Sound scope.registry scope.root := by
  unfold Scope.leaf at h
  split at h
  next => cases h
  next =>
    split at h
    next => cases h
    next entity other hentity =>
      have found := (Option.filter_eq_some_iff.mp hentity).1
      split at h
      · split at h
        · exact rootName_sound consistent hroot h
        · exact viaDefault_sound consistent hroot found h
      · split at h
        · exact viaRelation_sound h
        · cases h
      · cases h

omit consistent hroot in
theorem resolveAll_eq_ok {fs : List Filter} {resolved : List ResolvedFilter} :
    scope.resolveAll fs = .ok resolved ↔
      List.Forall₂ (fun f r => scope.resolve f = .ok r) fs resolved := by
  induction fs generalizing resolved with
  | nil => simp [resolveAll, eq_comm]
  | cons f rest ih =>
    simp only [resolveAll, bind_eq_ok, ih, List.forall₂_cons_left_iff]
    constructor
    · rintro ⟨r, hr, others, hrest, h⟩
      cases h
      exact ⟨r, others, hr, hrest, rfl⟩
    · rintro ⟨r, others, hr, hrest, rfl⟩
      exact ⟨r, hr, others, hrest, rfl⟩

theorem resolve_sound {f : Filter} (full : f.Full) {resolved : ResolvedFilter}
    (h : scope.resolve f = .ok resolved) : resolved.Sound scope.registry scope.root := by
  have all : ∀ {children : List Filter} {rs : List ResolvedFilter}, children ≠ [] →
      (∀ child ∈ children, ∀ r, scope.resolve child = .ok r →
        r.Sound scope.registry scope.root) →
      scope.resolveAll children = .ok rs →
      rs ≠ [] ∧ ∀ r ∈ rs, r.Sound scope.registry scope.root := by
    intro children rs hne each hrs
    have hforall := resolveAll_eq_ok.mp hrs
    constructor
    · intro hnil
      rw [hnil, List.forall₂_nil_right_iff] at hforall
      exact hne hforall
    · intro r hr
      obtain ⟨child, hchild, hres⟩ := forall₂_mem_right hforall hr
      exact each child hchild r hres
  induction full generalizing resolved with
  | leaf l =>
    obtain ⟨r, hr, rfl⟩ := map_eq_ok.mp (by simpa only [resolve] using h)
    exact .leaf (leaf_sound consistent hroot hr)
  | not _ ih =>
    obtain ⟨r, hr, rfl⟩ := map_eq_ok.mp (by simpa only [resolve] using h)
    exact .not (ih hr)
  | and hne _ ih =>
    obtain ⟨rs, hrs, rfl⟩ := map_eq_ok.mp (by simpa only [resolve] using h)
    obtain ⟨hfull, sound⟩ := all hne (fun c hc r => ih c hc) hrs
    exact .and hfull sound
  | or hne _ ih =>
    obtain ⟨rs, hrs, rfl⟩ := map_eq_ok.mp (by simpa only [resolve] using h)
    obtain ⟨hfull, sound⟩ := all hne (fun c hc r => ih c hc) hrs
    exact .or hfull sound

omit consistent hroot in
/-- A filter is resolved by resolving its leaves from left to right, up to the first that fails. -/
theorem mapM_leaf (f : Filter) :
    f.leaves.mapM scope.leaf = ResolvedFilter.leaves <$> scope.resolve f := by
  have all : ∀ {fs : List Filter},
      (∀ f ∈ fs, f.leaves.mapM scope.leaf = ResolvedFilter.leaves <$> scope.resolve f) →
      (Filter.leavesOf fs).mapM scope.leaf =
        ResolvedFilter.leavesOf <$> scope.resolveAll fs := by
    intro fs each
    induction fs with
    | nil => rfl
    | cons f rest ih =>
      rw [List.forall_mem_cons] at each
      rw [Filter.leavesOf, List.mapM_append, each.1, ih each.2, resolveAll]
      cases scope.resolve f with
      | error e => rfl
      | ok r => cases scope.resolveAll rest <;> rfl
  have under : ∀ {α : Type} (x : Except SearchError α) (g : α → ResolvedFilter),
      ResolvedFilter.leaves <$> g <$> x = (fun a => (g a).leaves) <$> x := by
    intro α x g
    cases x <;> rfl
  induction f using Filter.induct with
  | leaf l =>
    rw [Filter.leaves, resolve, under, List.mapM_cons]
    cases scope.leaf l <;> rfl
  | not child ih => rw [Filter.leaves, ih, resolve, under]; rfl
  | and children ih => rw [Filter.leaves, all ih, resolve, under]; rfl
  | or children ih => rw [Filter.leaves, all ih, resolve, under]; rfl

omit consistent hroot in
/-- The leaves of a resolved filter are those of the filter, each resolved. -/
theorem resolve_leaf {f : Filter} {resolved : ResolvedFilter} (h : scope.resolve f = .ok resolved) :
    List.Forall₂ (fun l r => scope.leaf l = .ok r) f.leaves resolved.leaves := by
  rw [← mapM_eq_ok, mapM_leaf, h]
  rfl

omit consistent hroot in
/-- The error of a filter is that of its first leaf that does not resolve. -/
theorem resolve_eq_error {f : Filter} {e : SearchError} :
    scope.resolve f = .error e ↔ ∃ before l after, f.leaves = before ++ l :: after ∧
      (∀ x ∈ before, ∃ r, scope.leaf x = .ok r) ∧ scope.leaf l = .error e := by
  rw [← mapM_eq_error, mapM_leaf, map_eq_error]

omit consistent hroot in
/-- A filter resolves just if each of its leaves does. -/
theorem exists_resolve (f : Filter) :
    (∃ r, scope.resolve f = .ok r) ↔ ∀ l ∈ f.leaves, ∃ r, scope.leaf l = .ok r := by
  constructor
  · rintro ⟨r, hr⟩ l hl
    obtain ⟨resolved, -, h⟩ := forall₂_mem_left (resolve_leaf hr) hl
    exact ⟨resolved, h⟩
  · intro each
    cases h : scope.resolve f with
    | ok r => exact ⟨r, rfl⟩
    | error e =>
      obtain ⟨before, l, after, hleaves, -, failed⟩ := resolve_eq_error.mp h
      obtain ⟨r, hr⟩ := each l (by simp [hleaves])
      cases hr.symm.trans failed

omit consistent hroot in
theorem resolve_leaves {f : Filter} {resolved : ResolvedFilter}
    (h : scope.resolve f = .ok resolved) : resolved.leaves.length = f.leaves.length :=
  (resolve_leaf h).length_eq.symm

end Scope

end FieldSearch
