import FieldSearch.Proofs.Search.Membership
import FieldSearch.Proofs.Search.Refusal

/-!
# The attributes that paths lead to

A path leads to an attribute of the root, to one of the target of a relation, to one of another
entity over the default way there, or, ending with the name of that entity, to its primary key. A
leaf is resolved as a comparison just if its path leads to an attribute, and then compares that one,
whatever the comparison and the operand are.
-/

namespace FieldSearch

/-- The path leads to an attribute of an entity, over a relation unless the attribute is the
root's. -/
inductive Scope.Reaches (scope : Scope) :
    List String → Option Relation → Entity → Attribute → Prop
  | own {name : String} {a : Attribute} : scope.root.attribute? name = some a →
      Reaches scope [scope.root.name, name] none scope.root a
  | related {relation name : String} {r : Relation} {e : Entity} {a : Attribute} :
      scope.root.relation? relation = some r → scope.registry.entity? r.target = some e →
      e.attribute? name = some a →
      Reaches scope [scope.root.name, relation, name] (some r) e a
  | other {first name : String} {r : Relation} {e : Entity} {a : Attribute} :
      first ≠ scope.root.name → scope.registry.Names first e → e.searchable = true →
      scope.registry.Admits first name → scope.root.defaultTraversal? first = some r →
      e.attribute? name = some a → Reaches scope [first, name] (some r) e a
  | key {name : String} {r : Relation} {e : Entity} {a : Attribute} :
      name ∉ scope.root.memberNames → scope.registry.Names name e →
      scope.registry.Admits name e.primaryKey → scope.root.defaultTraversal? name = some r →
      e.attribute? e.primaryKey = some a → Reaches scope [scope.root.name, name] (some r) e a

namespace Scope

variable {scope : Scope} {path : List String} {via : Option Relation} {e : Entity} {a : Attribute}

theorem viaDefault_eq_compareLeaf {l : Leaf} {other : Option EntityAlias} {name : String}
    {r : Relation} (allowed : other.all (·.allows name) = true)
    (hr : scope.root.defaultTraversal? l.entity = some r) (ha : e.attribute? name = some a) :
    scope.viaDefault l e other name = scope.compareLeaf l (some r) e a := by
  simp only [viaDefault, defaultTraversal_of_some hr, allowed, ha, bind, Except.bind, Bool.not_true,
    Bool.false_eq_true, if_false]

variable (consistent : scope.registry.Consistent)
  (start : scope.registry.searchable? scope.root.name = some scope.root)

include consistent start

/-- A leaf compares the attribute that its path leads to. -/
theorem Reaches.leaf (reaches : scope.Reaches path via e a) (comparison : Comparison)
    (operand source : Json) : scope.leaf ⟨path, comparison, operand, source⟩ =
      scope.compareLeaf ⟨path, comparison, operand, source⟩ via e a := by
  cases reaches with
  | own ha => simp only [leaf_root start, rootName, ha]
  | related hr target ha => simp only [leaf_relation start, viaRelation, hr, target, ha]
  | other apart names searchable admits hr ha =>
    obtain ⟨other, found⟩ := consistent.names_iff.mp names
    have visible := Registry.searchableOrAlias?_eq found
    rw [if_pos searchable] at visible
    rw [leaf_other apart visible]
    exact viaDefault_eq_compareLeaf ((consistent.admits_iff found).mpr admits) hr ha
  | key stranger names admits hr ha =>
    obtain ⟨other, found⟩ := consistent.names_iff.mp names
    rw [leaf_root start, rootName_eq_viaDefault stranger ha found]
    exact viaDefault_eq_compareLeaf ((consistent.admits_iff found).mpr admits) hr ha

omit start in
theorem reaches_of_viaDefault {first name : String} {other : Option EntityAlias}
    {comparison : Comparison} {operand source : Json} {resolved : ResolvedLeaf}
    (found : scope.registry.entityOrAlias? first = some (e, other))
    (h : scope.viaDefault ⟨[first, name], comparison, operand, source⟩ e other name =
      .ok resolved) :
    scope.registry.Names first e ∧ scope.registry.Admits first name ∧
      ∃ r a, scope.root.defaultTraversal? first = some r ∧ e.attribute? name = some a := by
  obtain ⟨allowed, r, hr, a, ha, -⟩ := viaDefault_eq_ok.mp h
  exact ⟨consistent.names_iff.mpr ⟨other, found⟩, (consistent.admits_iff found).mp allowed, r, a,
    hr, ha⟩

/-- A leaf that resolves and does not ask for a relation of the root has a path to an attribute. -/
theorem reaches_of_leaf {l : Leaf} {resolved : ResolvedLeaf} (h : scope.leaf l = .ok resolved) :
    (∃ via e a, scope.Reaches l.path via e a) ∨
      ∃ r ∈ scope.root.relations, l.path = [scope.root.name, r.name] ∧
        presenceLeaf l scope.root r = .ok resolved := by
  obtain ⟨path, comparison, operand, source⟩ := l
  rcases leaf_path h with ⟨first, name, hpath⟩ | ⟨relation, name, hpath⟩
  · cases hpath
    by_cases hfirst : first = scope.root.name
    · subst hfirst
      rw [leaf_root start] at h
      cases ha : scope.root.attribute? name with
      | some a => exact .inl ⟨none, scope.root, a, .own ha⟩
      | none =>
        cases hr : scope.root.relation? name with
        | some r =>
          obtain ⟨hmem, rfl⟩ := Entity.relation?_eq_some hr
          simp only [rootName, ha, hr] at h
          exact .inr ⟨r, hmem, rfl, h⟩
        | none =>
          have stranger := Entity.not_mem_memberNames ha hr
          cases found : scope.registry.entityOrAlias? name with
          | none =>
            simp only [rootName, ha, hr, found] at h
            cases h
          | some pair =>
            obtain ⟨e, other⟩ := pair
            obtain ⟨he, -⟩ := consistent.names_iff.mpr ⟨other, found⟩
            obtain ⟨key, hkey⟩ := Option.isSome_iff_exists.mp (consistent.sound e he).key
            rw [rootName_eq_viaDefault stranger hkey found] at h
            obtain ⟨names, admits, r, a, hdefault, ha⟩ := reaches_of_viaDefault consistent found h
            exact .inl ⟨some r, e, a, .key stranger names admits hdefault ha⟩
    · cases visible : scope.registry.searchableOrAlias? first with
      | none =>
        rw [leaf_hidden visible] at h
        cases h
      | some pair =>
        obtain ⟨e, other⟩ := pair
        obtain ⟨found, searchable⟩ := Option.filter_eq_some_iff.mp visible
        rw [leaf_other hfirst visible] at h
        obtain ⟨names, admits, r, a, hdefault, ha⟩ := reaches_of_viaDefault consistent found h
        exact .inl ⟨some r, e, a, .other hfirst names searchable admits hdefault ha⟩
  · cases hpath
    rw [leaf_relation start, viaRelation] at h
    split at h
    next => cases h
    next r hr =>
      split at h
      next => cases h
      next e target =>
        split at h
        next a ha => exact .inl ⟨some r, e, a, .related hr target ha⟩
        next => split at h <;> cases h

end Scope

end FieldSearch
