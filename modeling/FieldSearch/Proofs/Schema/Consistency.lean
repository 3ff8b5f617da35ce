import FieldSearch.Proofs.Outcome
import FieldSearch.Schema.Registry

/-!
# Consistency of a registry

What holds of every registry that has been built: names tell entities, members and aliases apart,
keys are attributes, and each relation leads to an entity, over the alias of it that it is the
default way to.
-/

namespace FieldSearch

/-- Elements of a list that have distinct names are found by them. -/
theorem find?_name_of_mem {α β : Type} [BEq β] [LawfulBEq β] (name : α → β) {as : List α} {a : α}
    (distinct : (as.map name).Nodup) (ha : a ∈ as) : as.find? (name · == name a) = some a := by
  induction as with
  | nil => cases ha
  | cons b rest ih =>
    rw [List.map_cons, List.nodup_cons] at distinct
    rcases List.mem_cons.mp ha with rfl | ha
    · simp
    · have hne : name b ≠ name a := fun h => distinct.1 (h ▸ List.mem_map_of_mem ha)
      simpa [List.find?_cons, hne] using ih distinct.2 ha

theorem find?_name_eq_some {α : Type} {name : α → String} {as : List α} {n : String} {a : α}
    (h : as.find? (name · == n) = some a) : a ∈ as ∧ name a = n :=
  ⟨List.mem_of_find?_eq_some h, by simpa using List.find?_some h⟩

theorem insertSorted_perm {α : Type} (key : α → String) (a : α) (as : List α) :
    (insertSorted key a as).Perm (a :: as) := by
  induction as with
  | nil => exact .refl _
  | cons b rest ih =>
    rw [insertSorted]
    split
    · exact .refl _
    · exact (ih.cons b).trans (.swap a b rest)

theorem firstRepeated?_eq_none (seen names : List String) :
    firstRepeated? seen names = none ↔ names.Nodup ∧ ∀ n ∈ names, n ∉ seen := by
  induction names generalizing seen with
  | nil => simp [firstRepeated?]
  | cons n rest ih =>
    simp only [firstRepeated?, List.contains_eq_mem, decide_eq_true_eq, List.nodup_cons,
      List.mem_cons, forall_eq_or_imp]
    split
    next repeated => simp [repeated]
    next fresh =>
      rw [ih]
      constructor
      · rintro ⟨distinct, h⟩
        refine ⟨⟨fun hn => h n hn List.mem_cons_self, distinct⟩, fresh, ?_⟩
        exact fun m hm hseen => h m hm (List.mem_cons_of_mem n hseen)
      · rintro ⟨⟨hn, distinct⟩, -, h⟩
        refine ⟨distinct, fun m hm hseen => ?_⟩
        rcases List.mem_cons.mp hseen with rfl | hseen
        · exact hn hm
        · exact h m hm hseen

namespace Entity

/-- The entity is sound in itself: its members are told apart and its key is one of them. -/
structure Sound (e : Entity) : Prop where
  members : e.memberNames.Nodup
  key : e.primaryKeyAttribute?.isSome

theorem attribute?_eq_some {e : Entity} {name : String} {a : Attribute}
    (h : e.attribute? name = some a) : a ∈ e.attributes ∧ a.name = name :=
  find?_name_eq_some h

theorem relation?_eq_some {e : Entity} {name : String} {r : Relation}
    (h : e.relation? name = some r) : r ∈ e.relations ∧ r.name = name :=
  find?_name_eq_some h

theorem attribute?_name {e : Entity} {name : String} {a : Attribute}
    (h : e.attribute? name = some a) : e.attribute? a.name = some a := by
  rw [(attribute?_eq_some h).2]
  exact h

/-- A relation is found by its name. -/
theorem Sound.relation? {e : Entity} (sound : e.Sound) {r : Relation} (hr : r ∈ e.relations) :
    e.relation? r.name = some r :=
  find?_name_of_mem _ (List.nodup_append.mp sound.members).2.1 hr

theorem defaultTraversal?_eq_some {e : Entity} {name : String} {r : Relation}
    (h : e.defaultTraversal? name = some r) :
    r ∈ e.relations ∧ r.isDefault = true ∧ r.defaultKey = name := by
  refine ⟨List.mem_of_find?_eq_some h, ?_⟩
  simpa using List.find?_some h

end Entity

namespace Registry

/-- A relation of an entity fits the rest of the schema. -/
structure RelationFits (registry : Registry) (r : Relation) : Prop where
  target : ∃ e ∈ registry.entities, e.name = r.target
  storage : storageFits r = true
  aliased : ∀ name, r.defaultAlias = some name →
    ∃ a ∈ registry.aliases, a.name = name ∧ a.entity = r.target

/-- An alias stands for an entity, and narrows it to attributes that it has. -/
structure AliasFits (entities : List Entity) (a : EntityAlias) : Prop where
  fresh : ∀ e ∈ entities, e.name ≠ a.name
  entity : ∃ e, entities.find? (·.name == a.entity) = some e ∧
    ∀ name ∈ a.attributes.getD [], (e.attribute? name).isSome

structure Consistent (registry : Registry) : Prop where
  entityNames : (registry.entities.map (·.name)).Nodup
  aliasNames : (registry.aliases.map (·.name)).Nodup
  sound : ∀ e ∈ registry.entities, e.Sound
  aliases : ∀ a ∈ registry.aliases, AliasFits registry.entities a
  relations : ∀ e ∈ registry.entities, ∀ r ∈ e.relations, registry.RelationFits r
  defaults : ∀ e ∈ registry.entities, ∀ r ∈ e.relations, r.isDefault = true →
    (defaultsFor e r.defaultKey).length ≤ 1

theorem checkNames_eq_ok {e : Entity} : checkNames e = .ok () ↔ e.memberNames.Nodup := by
  have h := firstRepeated?_eq_none [] e.memberNames
  rw [checkNames]
  split
  next name repeated => simp [repeated] at h; simp [h]
  next distinct => simp [distinct] at h; simp [h]

theorem addEntity_eq_ok {known known' : List Entity} {e : Entity} :
    addEntity known e = .ok known' ↔
      e.withTable.Sound ∧ (∀ k ∈ known, k.name ≠ e.withTable.name) ∧
        known' = insertSorted (·.name) e.withTable known := by
  simp only [addEntity, bind_eq_ok]
  constructor
  · rintro ⟨⟨⟩, members, h⟩
    split at h
    next => cases h
    next key =>
      split at h
      next => cases h
      next fresh =>
        cases h
        refine ⟨⟨checkNames_eq_ok.mp members, ?_⟩, by simpa using fresh, rfl⟩
        simpa [Option.isSome_iff_ne_none] using key
  · rintro ⟨⟨members, key⟩, fresh, rfl⟩
    refine ⟨(), checkNames_eq_ok.mpr members, ?_⟩
    have hkey : e.withTable.primaryKeyAttribute?.isNone = false := by
      rw [← Option.not_isSome, key, Bool.not_true]
    have hfresh : known.any (·.name == e.withTable.name) = false := by simpa using fresh
    simp [hkey, hfresh, pure, Except.pure]

theorem checkAlias_eq_ok {entities : List Entity} {a : EntityAlias} :
    checkAlias entities a = .ok () ↔ AliasFits entities a := by
  constructor
  · intro h
    rw [checkAlias] at h
    split at h
    next => cases h
    next fresh =>
      split at h
      next => cases h
      next e found =>
        split at h
        next => cases h
        next missing =>
          refine ⟨by simpa using fresh, e, found, fun name hname => ?_⟩
          simpa [Option.isSome_iff_ne_none] using List.find?_eq_none.mp missing name hname
  · rintro ⟨fresh, e, found, attributes⟩
    have hfresh : entities.any (·.name == a.name) = false := by simpa using fresh
    have missing :
        (a.attributes.getD []).find? (fun name => (e.attribute? name).isNone) = none := by
      rw [List.find?_eq_none]
      intro name hname
      simp [Option.isSome_iff_ne_none.mp (attributes name hname)]
    simp [checkAlias, hfresh, found, missing]

theorem addAlias_eq_ok {entities : List Entity} {known known' : List EntityAlias}
    {a : EntityAlias} :
    addAlias entities known a = .ok known' ↔
      AliasFits entities a ∧ (∀ k ∈ known, k.name ≠ a.name) ∧
        known' = insertSorted (·.name) a known := by
  simp only [addAlias, bind_eq_ok]
  constructor
  · rintro ⟨⟨⟩, fits, h⟩
    split at h
    next => cases h
    next fresh =>
      cases h
      exact ⟨checkAlias_eq_ok.mp fits, by simpa using fresh, rfl⟩
  · rintro ⟨fits, fresh, rfl⟩
    refine ⟨(), checkAlias_eq_ok.mpr fits, ?_⟩
    have hfresh : known.any (·.name == a.name) = false := by simpa using fresh
    simp [hfresh, pure, Except.pure]

theorem checkRelation_eq_ok {registry : Registry} {e : Entity} {r : Relation} :
    checkRelation registry.entities registry.aliases e r = .ok () ↔ registry.RelationFits r := by
  rw [checkRelation]
  constructor
  · intro h
    split at h
    next => cases h
    next target =>
      split at h
      next => cases h
      next storage =>
        refine ⟨by simpa using target, by simpa using storage, fun name hname => ?_⟩
        simp only [hname] at h
        split at h
        next found => simpa using found
        next => cases h
  · rintro ⟨target, storage, aliased⟩
    have htarget : registry.entities.any (·.name == r.target) = true := by simpa using target
    simp only [htarget, storage, Bool.not_true, Bool.false_eq_true, if_false]
    split
    next => rfl
    next name hname =>
      have found :
          registry.aliases.any (fun a => a.name == name && a.entity == r.target) = true := by
        simpa using aliased name hname
      simp [found]

theorem checkDefaults_eq_ok {e : Entity} : checkDefaults e = .ok () ↔
    ∀ r ∈ e.relations, r.isDefault = true → (defaultsFor e r.defaultKey).length ≤ 1 := by
  rw [checkDefaults]
  split
  next r found =>
    have hr := List.find?_some found
    simp only [Bool.and_eq_true, decide_eq_true_eq] at hr
    simp only [reduceCtorEq, false_iff, not_forall]
    exact ⟨r, List.mem_of_find?_eq_some found, hr.1, by omega⟩
  next missing => simpa using missing

/-- Whatever is built fits together. -/
theorem build_consistent {entities : List Entity} {aliases : List EntityAlias}
    {registry : Registry} (h : build entities aliases = .ok registry) : registry.Consistent := by
  simp only [build, bind_eq_ok, pure, Except.pure] at h
  obtain ⟨known, hknown, named, hnamed, ⟨⟩, hrelations, h⟩ := h
  cases h
  have entitiesFit : (known.map (·.name)).Nodup ∧ ∀ e ∈ known, e.Sound := by
    refine foldlM_invariant (fun l => (l.map (·.name)).Nodup ∧ ∀ e ∈ l, e.Sound) ?_ ?_ hknown
    · rintro l e l' ⟨distinct, sound⟩ hstep
      obtain ⟨he, fresh, rfl⟩ := addEntity_eq_ok.mp hstep
      have perm := insertSorted_perm (·.name) e.withTable l
      refine ⟨(perm.map _).nodup_iff.mpr (List.nodup_cons.mpr ⟨?_, distinct⟩), ?_⟩
      · simpa using fresh
      · simpa [perm.mem_iff, he] using sound
    · simp
  have aliasesFit : (named.map (·.name)).Nodup ∧ ∀ a ∈ named, AliasFits known a := by
    refine foldlM_invariant (fun l => (l.map (·.name)).Nodup ∧ ∀ a ∈ l, AliasFits known a)
      ?_ ?_ hnamed
    · rintro l a l' ⟨distinct, fits⟩ hstep
      obtain ⟨ha, fresh, rfl⟩ := addAlias_eq_ok.mp hstep
      have perm := insertSorted_perm (·.name) a l
      refine ⟨(perm.map _).nodup_iff.mpr (List.nodup_cons.mpr ⟨?_, distinct⟩), ?_⟩
      · simpa using fresh
      · simpa [perm.mem_iff, ha] using fits
    · simp
  have checked : ∀ e ∈ known, (∀ r ∈ e.relations, RelationFits ⟨known, named⟩ r) ∧
      checkDefaults e = .ok () := by
    intro e he
    obtain ⟨⟨⟩, hr, hd⟩ := bind_eq_ok.mp (forM_eq_ok.mp hrelations e he)
    exact ⟨fun r hmem => checkRelation_eq_ok.mp (forM_eq_ok.mp hr r hmem), hd⟩
  exact ⟨entitiesFit.1, aliasesFit.1, entitiesFit.2, aliasesFit.2, fun e he => (checked e he).1,
    fun e he => checkDefaults_eq_ok.mp (checked e he).2⟩

theorem entity?_eq_some {registry : Registry} {name : String} {e : Entity}
    (h : registry.entity? name = some e) : e ∈ registry.entities ∧ e.name = name :=
  find?_name_eq_some h

theorem searchable?_eq_some {registry : Registry} {name : String} {e : Entity}
    (h : registry.searchable? name = some e) :
    registry.entity? name = some e ∧ e.searchable = true := by
  simpa [searchable?, Option.filter_eq_some_iff] using h

namespace Consistent

variable {registry : Registry}

theorem entity? (consistent : registry.Consistent) {e : Entity} (he : e ∈ registry.entities) :
    registry.entity? e.name = some e :=
  find?_name_of_mem _ consistent.entityNames he

theorem alias? (consistent : registry.Consistent) {a : EntityAlias} (ha : a ∈ registry.aliases) :
    registry.alias? a.name = some a :=
  find?_name_of_mem _ consistent.aliasNames ha

/-- No entity has the name of an alias. -/
theorem entity?_alias (consistent : registry.Consistent) {a : EntityAlias}
    (ha : a ∈ registry.aliases) : registry.entity? a.name = none := by
  rw [Registry.entity?, List.find?_eq_none]
  intro e he
  simpa using (consistent.aliases a ha).fresh e he

theorem target? (consistent : registry.Consistent) {e : Entity} (he : e ∈ registry.entities)
    {r : Relation} (hr : r ∈ e.relations) :
    ∃ target ∈ registry.entities, registry.entity? r.target = some target := by
  obtain ⟨target, ht, hname⟩ := (consistent.relations e he r hr).target
  exact ⟨target, ht, hname ▸ consistent.entity? ht⟩

/-- The default way to a name leads to the entity that the name stands for. -/
theorem entityOrAlias?_of_default (consistent : registry.Consistent) {e : Entity}
    (he : e ∈ registry.entities) {name : String} {r : Relation}
    (hr : e.defaultTraversal? name = some r) :
    ∃ target other, registry.entityOrAlias? name = some (target, other) ∧
      registry.entity? r.target = some target := by
  obtain ⟨hmem, -, hkey⟩ := Entity.defaultTraversal?_eq_some hr
  have fits := consistent.relations e he r hmem
  obtain ⟨target, -, found⟩ := consistent.target? he hmem
  rw [Relation.defaultKey] at hkey
  cases hdefault : r.defaultAlias with
  | none =>
    -- The relation answers to its target, so the name is that of an entity.
    rw [hdefault, Option.getD_none] at hkey
    subst hkey
    exact ⟨target, none, by simp [entityOrAlias?, found], found⟩
  | some n =>
    rw [hdefault, Option.getD_some] at hkey
    subst hkey
    obtain ⟨a, ha, rfl, hentity⟩ := fits.aliased n hdefault
    refine ⟨target, some a, ?_, found⟩
    simp [entityOrAlias?, consistent.entity?_alias ha, consistent.alias? ha, hentity, found]

theorem entityOrAlias?_default (consistent : registry.Consistent) {e : Entity}
    (he : e ∈ registry.entities) {name : String} {r : Relation}
    (hr : e.defaultTraversal? name = some r) {target : Entity} {other : Option EntityAlias}
    (h : registry.entityOrAlias? name = some (target, other)) :
    registry.entity? r.target = some target := by
  obtain ⟨target', other', hname, htarget⟩ := consistent.entityOrAlias?_of_default he hr
  cases h.symm.trans hname
  exact htarget

end Consistent

end Registry

end FieldSearch
