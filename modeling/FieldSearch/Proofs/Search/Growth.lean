import FieldSearch.Proofs.Search.WellFormed

/-!
# Growing a schema

A registry that has all entities and aliases of another, and perhaps more, knows every name of the
other as the other does: names are told apart, and no new entity can have the name of an alias. A
search that was accepted resolves every name at its first success, so it compiles to the same plan.
-/

namespace FieldSearch

namespace Registry

/-- The registry has every entity and every alias of a smaller one, unchanged. -/
structure Includes (large small : Registry) : Prop where
  entities : ∀ e ∈ small.entities, e ∈ large.entities
  aliases : ∀ a ∈ small.aliases, a ∈ large.aliases

namespace Includes

variable {large small : Registry} (includes : large.Includes small)
  (consistent : large.Consistent) {name : String}

include includes consistent

theorem entity? {e : Entity} (h : small.entity? name = some e) : large.entity? name = some e := by
  obtain ⟨hmem, rfl⟩ := entity?_eq_some h
  exact consistent.entity? (includes.entities e hmem)

theorem searchable? {e : Entity} (h : small.searchable? name = some e) :
    large.searchable? name = some e := by
  obtain ⟨hentity, hsearch⟩ := searchable?_eq_some h
  rw [Registry.searchable?, includes.entity? consistent hentity, Option.filter_some, if_pos hsearch]

/-- An alias keeps its name to itself, whatever entities have come. -/
theorem alias? {a : EntityAlias} (h : small.alias? name = some a) :
    large.alias? name = some a ∧ large.entity? name = none := by
  obtain ⟨hmem, rfl⟩ := find?_name_eq_some h
  have ha := includes.aliases a hmem
  exact ⟨consistent.alias? ha, consistent.entity?_alias ha⟩

theorem entityOrAlias? {target : Entity} {other : Option EntityAlias}
    (h : small.entityOrAlias? name = some (target, other)) :
    large.entityOrAlias? name = some (target, other) := by
  rw [Registry.entityOrAlias?] at h
  split at h
  next e he =>
    cases h
    rw [Registry.entityOrAlias?, includes.entity? consistent he]
  next =>
    obtain ⟨a, ha, h⟩ := Option.bind_eq_some_iff.mp h
    obtain ⟨e, he, h⟩ := Option.bind_eq_some_iff.mp h
    cases h
    obtain ⟨halias, hnone⟩ := includes.alias? consistent ha
    have hentity := includes.entity? consistent he
    simp [Registry.entityOrAlias?, hnone, halias, hentity]

theorem searchableOrAlias? {target : Entity} {other : Option EntityAlias}
    (h : small.searchableOrAlias? name = some (target, other)) :
    large.searchableOrAlias? name = some (target, other) := by
  obtain ⟨hfound, hsearch⟩ := Option.filter_eq_some_iff.mp h
  rw [Registry.searchableOrAlias?, includes.entityOrAlias? consistent hfound, Option.filter_some,
    if_pos hsearch]

end Includes

end Registry

namespace Scope

variable {scope : Scope} {large : Registry}

/-- The same search over another registry. -/
def within (scope : Scope) (large : Registry) : Scope := { scope with registry := large }

/-! ### Operands do not depend on the registry -/

@[simp]
theorem value_within (type : ScalarType) (j : Json) :
    (scope.within large).value type j = scope.value type j := by
  have hconvert : (scope.within large).convert? type j = scope.convert? type j := by
    cases type <;> rfl
  cases j <;> simp only [value, hconvert]

@[simp]
theorem values_within (type : ScalarType) (js : List Json) :
    (scope.within large).values type js = scope.values type js := by
  induction js with
  | nil => rfl
  | cons j rest ih => rw [values, values, value_within, ih]

@[simp]
theorem operand_within (comparison : Comparison) (type : ScalarType) (j : Json) :
    (scope.within large).operand comparison type j = scope.operand comparison type j := by
  simp only [operand, values_within, value_within]

@[simp]
theorem compareLeaf_within (l : Leaf) (via : Option Relation) (entity : Entity) (a : Attribute) :
    (scope.within large).compareLeaf l via entity a = scope.compareLeaf l via entity a := by
  rw [compareLeaf, compareLeaf, operand_within]
  rfl

theorem defaultTraversal_within {l : Leaf} {name : String} {r : Relation}
    (h : scope.defaultTraversal l name = .ok r) :
    (scope.within large).defaultTraversal l name = .ok r := by
  have found := defaultTraversal_eq_ok h
  have hroot : (scope.within large).root.defaultTraversal? name = some r := found
  rw [defaultTraversal, hroot]

/-! ### Whatever resolves still does -/

variable (includes : large.Includes scope.registry) (consistent : large.Consistent)

include includes consistent

theorem rootName_within {l : Leaf} {name : String} {resolved : ResolvedLeaf}
    (h : scope.rootName l name = .ok resolved) :
    (scope.within large).rootName l name = .ok resolved := by
  have hroot : (scope.within large).root = scope.root := rfl
  unfold rootName at h ⊢
  rw [hroot]
  cases ha : scope.root.attribute? name with
  | some a =>
    simp only [ha] at h
    simpa only [compareLeaf_within] using h
  | none =>
    cases hr : scope.root.relation? name with
    | some r =>
      simp only [ha, hr] at h
      exact h
    | none =>
      -- only here is the registry asked, and it keeps its answer to a name that it knows
      cases hother : scope.registry.entityOrAlias? name with
      | none =>
        simp only [ha, hr, hother] at h
        cases h
      | some found =>
        obtain ⟨target, other⟩ := found
        simp only [ha, hr, hother] at h
        obtain ⟨r, hdefault, h⟩ := bind_eq_ok.mp h
        have hfound : (scope.within large).registry.entityOrAlias? name = some (target, other) :=
          includes.entityOrAlias? consistent hother
        simp only [hfound]
        refine bind_eq_ok.mpr ⟨r, defaultTraversal_within hdefault, ?_⟩
        simpa only [compareLeaf_within] using h

omit includes consistent in
theorem viaDefault_within {l : Leaf} {entity : Entity} {other : Option EntityAlias} {name : String}
    {resolved : ResolvedLeaf} (h : scope.viaDefault l entity other name = .ok resolved) :
    (scope.within large).viaDefault l entity other name = .ok resolved := by
  unfold viaDefault at h ⊢
  obtain ⟨r, hdefault, h⟩ := bind_eq_ok.mp h
  refine bind_eq_ok.mpr ⟨r, defaultTraversal_within hdefault, ?_⟩
  simpa only [compareLeaf_within] using h

theorem viaRelation_within {l : Leaf} {relation name : String} {resolved : ResolvedLeaf}
    (h : scope.viaRelation l relation name = .ok resolved) :
    (scope.within large).viaRelation l relation name = .ok resolved := by
  have hroot : (scope.within large).root = scope.root := rfl
  unfold viaRelation at h ⊢
  rw [hroot]
  cases hr : scope.root.relation? relation with
  | none =>
    simp only [hr] at h
    cases h
  | some r =>
    cases htarget : scope.registry.entity? r.target with
    | none =>
      simp only [hr, htarget] at h
      cases h
    | some target =>
      have hfound : (scope.within large).registry.entity? r.target = some target :=
        includes.entity? consistent htarget
      simp only [hr, htarget] at h
      simp only [hfound]
      simpa only [compareLeaf_within] using h

theorem leaf_within {l : Leaf} {resolved : ResolvedLeaf} (h : scope.leaf l = .ok resolved) :
    (scope.within large).leaf l = .ok resolved := by
  have hroot : (scope.within large).root = scope.root := rfl
  unfold Scope.leaf at h ⊢
  rw [hroot]
  by_cases deep : maxHops < l.hops
  · rw [if_pos deep] at h
    cases h
  · rw [if_neg deep] at h ⊢
    cases hentity : scope.registry.searchableOrAlias? l.entity with
    | none =>
      simp only [hentity] at h
      cases h
    | some found =>
      obtain ⟨entity, other⟩ := found
      have hfound : (scope.within large).registry.searchableOrAlias? l.entity =
          some (entity, other) := includes.searchableOrAlias? consistent hentity
      simp only [hentity] at h
      simp only [hfound]
      split at h
      next first name _ =>
        by_cases hfirst : first = scope.root.name
        · rw [if_pos hfirst] at h ⊢
          exact rootName_within includes consistent h
        · rw [if_neg hfirst] at h ⊢
          exact viaDefault_within h
      next first relation name _ =>
        by_cases hfirst : first = scope.root.name
        · rw [if_pos hfirst] at h ⊢
          exact viaRelation_within includes consistent h
        · rw [if_neg hfirst] at h
          cases h
      next => cases h

theorem resolve_within {f : Filter} (full : f.Full) {resolved : ResolvedFilter}
    (h : scope.resolve f = .ok resolved) : (scope.within large).resolve f = .ok resolved := by
  have all : ∀ {children : List Filter} {rs : List ResolvedFilter},
      (∀ child ∈ children, ∀ r, scope.resolve child = .ok r →
        (scope.within large).resolve child = .ok r) →
      scope.resolveAll children = .ok rs → (scope.within large).resolveAll children = .ok rs := by
    intro children rs each hrs
    rw [resolveAll_eq_ok] at hrs ⊢
    induction hrs with
    | nil => exact .nil
    | cons hr _ ih =>
      rw [List.forall_mem_cons] at each
      exact .cons (each.1 _ hr) (ih each.2)
  induction full generalizing resolved with
  | leaf l =>
    obtain ⟨r, hr, rfl⟩ := map_eq_ok.mp (by simpa only [resolve] using h)
    exact map_eq_ok.mpr ⟨r, leaf_within includes consistent hr, rfl⟩
  | not _ ih =>
    obtain ⟨r, hr, rfl⟩ := map_eq_ok.mp (by simpa only [resolve] using h)
    exact map_eq_ok.mpr ⟨r, ih hr, rfl⟩
  | and _ _ ih =>
    obtain ⟨rs, hrs, rfl⟩ := map_eq_ok.mp (by simpa only [resolve] using h)
    exact map_eq_ok.mpr ⟨rs, all (fun c hc r => ih c hc) hrs, rfl⟩
  | or _ _ ih =>
    obtain ⟨rs, hrs, rfl⟩ := map_eq_ok.mp (by simpa only [resolve] using h)
    exact map_eq_ok.mpr ⟨rs, all (fun c hc r => ih c hc) hrs, rfl⟩

end Scope

section Search

variable {large small : Registry} (includes : large.Includes small) (consistent : large.Consistent)

include includes consistent

theorem OrderTerm.ofKey_within {root : Entity} {key : SortKey} {t : OrderTerm}
    (h : ofKey small root key = .ok t) : ofKey large root key = .ok t := by
  unfold ofKey at h ⊢
  cases hentity : small.searchable? key.entity with
  | none =>
    simp only [hentity] at h
    cases h
  | some e =>
    simp only [hentity] at h
    simp only [includes.searchable? consistent hentity]
    exact h

theorem OrderTerm.ofKeys_within {root : Entity} {keys : List SortKey} {terms : List OrderTerm}
    (h : ofKeys small root keys = .ok terms) : ofKeys large root keys = .ok terms := by
  obtain ⟨bound, hbound, h⟩ := bind_eq_ok.mp h
  have each := (mapM_eq_ok.mp hbound).imp fun _ _ => ofKey_within includes consistent
  exact bind_eq_ok.mpr ⟨bound, mapM_eq_ok.mpr each, h⟩

/-- A search that is accepted over the smaller registry has the same plan over the larger one. -/
theorem Compiler.compile_within {config : Config} {name : String} {filter orderBy : Json}
    {page : Option Page} {plan : Plan}
    (h : (Compiler.mk small config).compile name filter orderBy page = .ok plan) :
    (Compiler.mk large config).compile name filter orderBy page = .ok plan := by
  obtain ⟨root, resolved, terms, hroot, hresolved, hterms, rfl⟩ := compile_eq_ok h
  obtain ⟨f, hf, hresolve⟩ := bind_eq_ok.mp hresolved
  obtain ⟨keys, hkeys, hbound⟩ := bind_eq_ok.mp hterms
  have full := (Filter.parse_reads hf).1.full
  refine compile_of_stages ?root ?resolve ?order page
  case root => exact root_eq_ok.mpr (includes.searchable? consistent (root_eq_ok.mp hroot))
  case resolve =>
    have hwithin := Scope.resolve_within includes consistent full hresolve
    exact bind_eq_ok.mpr ⟨f, hf, hwithin⟩
  case order =>
    have hwithin := OrderTerm.ofKeys_within includes consistent hbound
    exact bind_eq_ok.mpr ⟨keys, hkeys, hwithin⟩

end Search

end FieldSearch
