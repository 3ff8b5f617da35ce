import FieldSearch.Proofs.Search.Culprit
import FieldSearch.Proofs.Search.Implicit

/-!
# Why leaves are refused

Against a registry that has been built, each error of a leaf has its cause. An entity is unknown
only by the name with which a path starts, for a relation leads to an entity that is there. The
primary key of an entity is one of its attributes, so only an alias can keep it out of reach. A path
of more than three names is refused for its length, and what resolves takes one relation at most.
-/

namespace FieldSearch

/-- The path takes one relation to an entity, which is known by `subject` there, and ends with a
name that is looked up in the entity. -/
inductive Scope.Leads (scope : Scope) : List String → String → Entity → String → Prop
  | implicit {first name : String} {e : Entity} : first ≠ scope.root.name →
      scope.registry.Names first e → Leads scope [first, name] first e name
  | explicit {r : Relation} {name : String} {e : Entity} : r ∈ scope.root.relations →
      scope.registry.entity? r.target = some e →
      Leads scope [scope.root.name, r.name, name] e.name e name

/-- The cause of each error with which a leaf can be refused. -/
inductive Scope.Refuses (scope : Scope) (l : Leaf) : SearchError → Prop
  | long : 3 < l.path.length → Refuses scope l (tooDeep l l.hops)
  | hidden : (¬ ∃ e, scope.registry.Names l.entity e ∧ e.searchable = true) →
      Refuses scope l (.unknownEntity l.entity l.source)
  /-- The way to the first name would come before the relation. -/
  | elsewhere {first relation name : String} : l.path = [first, relation, name] →
      first ≠ scope.root.name → Refuses scope l (tooDeep l 2)
  /-- The last name is that of a second relation. -/
  | onward {subject : String} {e : Entity} {r : Relation} :
      scope.Leads l.path subject e r.name → r ∈ e.relations → Refuses scope l (tooDeep l 2)
  | noWay {name : String} {e : Entity} : name ∈ l.path → scope.registry.Names name e →
      scope.root.defaultTraversal? name = none →
      Refuses scope l (.ambiguousRelation scope.root.name name
        (scope.root.relationsTo e.name).length l.source)
  | unrelated {relation name : String} : l.path = [scope.root.name, relation, name] →
      (∀ r ∈ scope.root.relations, r.name ≠ relation) →
      Refuses scope l (.unknownRelation scope.root.name relation l.source)
  /-- The primary key is not listed by the alias that stands for the entity. -/
  | keyUnlisted {name : String} {e : Entity} {r : Relation} : l.path = [scope.root.name, name] →
      scope.registry.Names name e → scope.root.defaultTraversal? name = some r →
      ¬ scope.registry.Admits name e.primaryKey →
      Refuses scope l (.unknownAttribute name e.primaryKey l.source)
  | unlisted {first name : String} : l.path = [first, name] → first ≠ scope.root.name →
      ¬ scope.registry.Admits first name →
      Refuses scope l (.unknownAttribute first name l.source)
  | nameless {name : String} : l.path = [scope.root.name, name] →
      name ∉ scope.root.memberNames → (¬ ∃ e, scope.registry.Names name e) →
      Refuses scope l (.unknownAttribute scope.root.name name l.source)
  | lacking {subject name : String} {e : Entity} : scope.Leads l.path subject e name →
      name ∉ e.memberNames → Refuses scope l (.unknownAttribute subject name l.source)
  | unfit (e : Entity) {a : Attribute} : l.comparison.accepts a.type = false →
      Refuses scope l (.typeMismatch e.name a.name l.comparison (.scalar a.type) l.source)
  | notPresence {r : Relation} : r ∈ scope.root.relations →
      ¬ (l.comparison.isEquality = true ∧ l.operand.isNull = true) →
      Refuses scope l (.typeMismatch scope.root.name r.name l.comparison
        (.relation r.cardinality) l.source)
  | operand (e : Entity) {a : Attribute} {fault : OperandFault} :
      scope.operand l.comparison a.type l.operand = .error fault →
      Refuses scope l (.invalidOperand e.name a.name fault l.source)

theorem Entity.not_mem_memberNames {e : Entity} {name : String}
    (noAttribute : e.attribute? name = none) (noRelation : e.relation? name = none) :
    name ∉ e.memberNames := by
  intro hname
  rcases List.mem_append.mp hname with hname | hname
  · obtain ⟨a, ha, rfl⟩ := List.mem_map.mp hname
    exact List.find?_eq_none.mp noAttribute a ha (beq_self_eq_true _)
  · obtain ⟨r, hr, rfl⟩ := List.mem_map.mp hname
    exact List.find?_eq_none.mp noRelation r hr (beq_self_eq_true _)

/-- The name of the entity that a name stands for is where the relations are counted. -/
theorem Registry.Consistent.alias?_entity {registry : Registry} (consistent : registry.Consistent)
    {name : String} {e : Entity} (names : registry.Names name e) :
    ((registry.alias? name).map (·.entity)).getD name = e.name := by
  obtain ⟨he, rfl | ⟨a, ha, rfl, hentity⟩⟩ := names
  · have fresh : registry.alias? e.name = none := by
      apply List.find?_eq_none.mpr
      intro a ha hname
      exact (consistent.aliases a ha).fresh e he (beq_iff_eq.mp hname).symm
    rw [fresh, Option.map_none, Option.getD_none]
  · rw [consistent.alias? ha, Option.map_some, Option.getD_some, hentity]

namespace Scope

variable {scope : Scope} {l : Leaf} {err : SearchError}

theorem compareLeaf_refuses {via : Option Relation} {e : Entity} {a : Attribute}
    (h : scope.compareLeaf l via e a = .error err) : scope.Refuses l err := by
  unfold compareLeaf at h
  split at h
  next refused =>
    cases h
    exact .unfit e (by simpa using refused)
  next =>
    split at h
    next => cases h
    next fault hfault =>
      cases h
      exact .operand e hfault

theorem presenceLeaf_refuses {r : Relation} (hr : r ∈ scope.root.relations)
    (h : presenceLeaf l scope.root r = .error err) : scope.Refuses l err := by
  unfold presenceLeaf at h
  split at h
  next other =>
    cases h
    apply Refuses.notPresence hr
    rintro ⟨equality, null⟩
    simp [equality, null] at other
  next => cases h

/-- What is no attribute of the entity is a second relation or nothing. -/
theorem Leads.refuses {subject name : String} {e : Entity}
    (leads : scope.Leads l.path subject e name) (noAttribute : e.attribute? name = none)
    (h : (if (e.relation? name).isSome then .error (tooDeep l 2)
      else .error (.unknownAttribute subject name l.source) : Except SearchError ResolvedLeaf) =
        .error err) : scope.Refuses l err := by
  split at h
  next relation =>
    cases h
    obtain ⟨r, hr⟩ := Option.isSome_iff_exists.mp relation
    obtain ⟨hmem, rfl⟩ := Entity.relation?_eq_some hr
    exact .onward leads hmem
  next relation =>
    cases h
    exact .lacking leads (Entity.not_mem_memberNames noAttribute (by simpa using relation))

variable (consistent : scope.registry.Consistent)

include consistent

theorem defaultTraversal_refuses {name : String} {e : Entity} (hname : name ∈ l.path)
    (names : scope.registry.Names name e) (h : scope.defaultTraversal l name = .error err) :
    scope.Refuses l err := by
  unfold defaultTraversal at h
  split at h
  next => cases h
  next none =>
    cases h
    rw [consistent.alias?_entity names]
    exact .noWay hname names none

/-- The key of the other entity is an attribute, so only an alias can be the reason to refuse it. -/
theorem rootName_refuses {name : String} (hpath : l.path = [scope.root.name, name])
    (h : scope.rootName l name = .error err) : scope.Refuses l err := by
  unfold rootName at h
  split at h
  next => exact compareLeaf_refuses h
  next noAttribute =>
    split at h
    next r hr => exact presenceLeaf_refuses (Entity.relation?_eq_some hr).1 h
    next noRelation =>
      have stranger := Entity.not_mem_memberNames noAttribute noRelation
      split at h
      next unnamed =>
        cases h
        apply Refuses.nameless hpath stranger
        rintro ⟨e, names⟩
        obtain ⟨other, found⟩ := consistent.names_iff.mp names
        cases unnamed.symm.trans found
      next e other found =>
        have names := consistent.names_iff.mpr ⟨other, found⟩
        rcases bind_eq_error.mp h with h | ⟨r, hr, h⟩
        · exact defaultTraversal_refuses consistent (by simp [hpath]) names h
        · split at h
          next => exact compareLeaf_refuses h
          next barred =>
            cases h
            obtain ⟨key, hkey⟩ := Option.isSome_iff_exists.mp (consistent.sound e names.1).key
            apply Refuses.keyUnlisted hpath names (defaultTraversal_eq_ok hr)
            intro admits
            have allowed := (consistent.admits_iff found).mpr admits
            rw [← (Entity.attribute?_eq_some hkey).2] at allowed
            simp [hkey, Option.filter_some, allowed] at barred

theorem viaDefault_refuses {e : Entity} {other : Option EntityAlias} {first name : String}
    (hpath : l.path = [first, name]) (apart : first ≠ scope.root.name)
    (found : scope.registry.entityOrAlias? first = some (e, other))
    (h : scope.viaDefault l e other name = .error err) : scope.Refuses l err := by
  have names := consistent.names_iff.mpr ⟨other, found⟩
  have start : l.entity = first := by simp [Leaf.entity, hpath]
  have leads : scope.Leads l.path first e name := hpath ▸ .implicit apart names
  unfold viaDefault at h
  rw [start] at h
  rcases bind_eq_error.mp h with h | ⟨r, hr, h⟩
  · exact defaultTraversal_refuses consistent (by simp [hpath]) names h
  · by_cases allowed : other.all (·.allows name) = true
    · simp only [allowed, Bool.not_true, Bool.false_eq_true, if_false] at h
      split at h
      next => exact compareLeaf_refuses h
      next noAttribute => exact leads.refuses noAttribute h
    · simp only [allowed, Bool.not_false, if_true] at h
      cases h
      exact .unlisted hpath apart fun admits => allowed ((consistent.admits_iff found).mpr admits)

/-- The relation leads to an entity that is there. -/
theorem viaRelation_refuses (hroot : scope.root ∈ scope.registry.entities)
    {relation name : String} (hpath : l.path = [scope.root.name, relation, name])
    (h : scope.viaRelation l relation name = .error err) : scope.Refuses l err := by
  unfold viaRelation at h
  split at h
  next unrelated =>
    cases h
    apply Refuses.unrelated hpath
    intro r hr hname
    exact List.find?_eq_none.mp unrelated r hr (beq_iff_eq.mpr hname)
  next r hr =>
    obtain ⟨hmem, rfl⟩ := Entity.relation?_eq_some hr
    obtain ⟨e, he, target⟩ := (consistent.relations _ hroot r hmem).target
    have found : scope.registry.entity? r.target = some e := target ▸ consistent.entity? he
    have leads : scope.Leads l.path e.name e name := hpath ▸ .explicit hmem found
    simp only [found] at h
    split at h
    next => exact compareLeaf_refuses h
    next noAttribute => exact leads.refuses noAttribute h

omit consistent in
theorem leaf_long (long : 3 < l.path.length) : scope.leaf l = .error (tooDeep l l.hops) := by
  have hops : maxHops < l.hops := by
    rw [Leaf.hops, maxHops]
    omega
  rw [leaf, if_pos hops]

/-- A leaf whose path has two names at least is refused for a cause. -/
theorem leaf_refuses (hroot : scope.root ∈ scope.registry.entities) (short : 2 ≤ l.path.length)
    (h : scope.leaf l = .error err) : scope.Refuses l err := by
  by_cases long : 3 < l.path.length
  · rw [leaf_long long] at h
    cases h
    exact .long long
  · have hops : ¬ maxHops < l.hops := by
      rw [Leaf.hops, maxHops]
      omega
    rw [leaf, if_neg hops] at h
    split at h
    next unfound =>
      cases h
      apply Refuses.hidden
      rintro ⟨e, names, searchable⟩
      obtain ⟨other, found⟩ := consistent.names_iff.mp names
      rw [Registry.searchableOrAlias?_eq found, if_pos searchable] at unfound
      cases unfound
    next e other searched =>
      have found := (Option.filter_eq_some_iff.mp searched).1
      split at h
      next first name hpath =>
        split at h
        next isRoot => exact rootName_refuses consistent (isRoot ▸ hpath) h
        next apart =>
          have start : l.entity = first := by simp [Leaf.entity, hpath]
          exact viaDefault_refuses consistent hpath apart (start ▸ found) h
      next first relation name hpath =>
        split at h
        next isRoot => exact viaRelation_refuses consistent hroot (isRoot ▸ hpath) h
        next apart =>
          cases h
          exact .elsewhere hpath apart
      next two three =>
        -- neither two names nor three
        exfalso
        have count : l.path.length = 2 ∨ l.path.length = 3 := by omega
        rcases count with count | count
        · obtain ⟨first, name, hpath⟩ := List.length_eq_two.mp count
          exact two first name hpath
        · obtain ⟨first, relation, name, hpath⟩ := List.length_eq_three.mp count
          exact three first relation name hpath

/-- Where the root has a default way to the name that follows its own, an attribute is unknown only
as the key that an alias leaves out. -/
theorem barred_key (hroot : scope.root ∈ scope.registry.entities) {name : String} {r : Relation}
    (hpath : l.path = [scope.root.name, name])
    (hdefault : scope.root.defaultTraversal? name = some r) {subject member : String}
    {part : Json} (cause : scope.Refuses l (.unknownAttribute subject member part)) :
    ∃ other ∈ scope.registry.aliases, other.name = name ∧
      ∃ target ∈ scope.registry.entities, target.name = other.entity ∧
        ∃ listed, other.attributes = some listed ∧ target.primaryKey ∉ listed := by
  generalize herr : SearchError.unknownAttribute subject member part = err at cause
  cases cause with
  | @keyUnlisted name' e r' hpath' names _ unlisted =>
    cases hpath.symm.trans hpath'
    obtain ⟨other, hother, hname, listed, hlisted, missing⟩ :
        ∃ a ∈ scope.registry.aliases, a.name = name ∧ ∃ listed, a.attributes = some listed ∧
          e.primaryKey ∉ listed := by
      simpa only [Registry.Admits, not_forall, exists_prop] using unlisted
    have hentity := consistent.alias?_entity names
    rw [← hname, consistent.alias? hother, Option.map_some, Option.getD_some] at hentity
    exact ⟨other, hother, hname, e, names.1, hentity.symm, listed, hlisted, missing⟩
  | @unlisted first name' hpath' apart =>
    cases hpath.symm.trans hpath'
    exact absurd rfl apart
  | nameless hpath' stranger unnamed =>
    cases hpath.symm.trans hpath'
    obtain ⟨e, other, found, -⟩ := consistent.entityOrAlias?_of_default hroot hdefault
    exact absurd ⟨e, consistent.names_iff.mpr ⟨other, found⟩⟩ unnamed
  | @lacking subject name e leads lacks =>
    rw [hpath] at leads
    cases leads with
    | implicit apart => exact absurd rfl apart
  | _ => cases herr

end Scope

/-- The leaves of a filter that has been read have paths of two names at least. -/
theorem Filter.path_of_parse {bounds : Bounds} {node : Json} {f : Filter}
    (parsed : Filter.parse bounds node = .ok f) : ∀ l ∈ f.leaves, 2 ≤ l.path.length := by
  intro l hl
  obtain ⟨-, mirrors⟩ := (Filter.parse_eq_ok.mp parsed).1.source l hl
  generalize l.source = source at mirrors
  cases mirrors with
  | leaf _ hlength _ => exact hlength

/-- The relation of a leaf that resolves is one of the root's. -/
theorem ResolvedLeaf.Sound.from_root {registry : Registry} {root : Entity} {r : ResolvedLeaf}
    (sound : r.Sound registry root) {t : Traversal} (ht : r.traversal? = some t) :
    t.source = root.name ∧ t.relation ∈ root.relations := by
  cases sound with
  | direct => cases ht
  | via hr =>
    cases ht
    exact ⟨rfl, hr⟩
  | presence _ hr =>
    cases ht
    exact ⟨rfl, hr⟩

/-- No filter that has been read is malformed when it is resolved. An entity is unknown only where a
leaf starts with a name that is neither that of a searchable entity nor that of an alias of one.
Over a default way the name after the root's fails to stand for a key only if it is that of an alias
which does not list the key. A leaf of more than three names is too deep, and one that resolves
takes at most one relation, which is the root's. -/
theorem refusals_have_causes {entities : List Entity} {aliases : List EntityAlias}
    {registry : Registry} (built : Registry.build entities aliases = .ok registry) {root : Entity}
    (hroot : root ∈ registry.entities) {bounds : Bounds} {node : Json} {f : Filter}
    (parsed : Filter.parse bounds node = .ok f) (normalize : Bool) :
    (∀ err, (Scope.mk registry root normalize).resolve f = .error err →
      (∀ reason part, err ≠ .malformed reason part) ∧
      ∃ l ∈ f.leaves, (Scope.mk registry root normalize).leaf l = .error err ∧
        err.expression? = some l.source ∧
        (∀ name part, err = .unknownEntity name part → l.path.head? = some name ∧
          ¬ ∃ e, registry.Names name e ∧ e.searchable = true) ∧
        ∀ name r, l.path = [root.name, name] → root.defaultTraversal? name = some r →
          ∀ subject member part, err = .unknownAttribute subject member part →
            ∃ other ∈ registry.aliases, other.name = name ∧
              ∃ target ∈ registry.entities, target.name = other.entity ∧
                ∃ listed, other.attributes = some listed ∧ target.primaryKey ∉ listed) ∧
    (∀ l : Leaf, 3 < l.path.length → (Scope.mk registry root normalize).leaf l =
      .error (.tooDeep l.hops maxHops l.source)) ∧
    ∀ resolved, (Scope.mk registry root normalize).resolve f = .ok resolved →
      (∀ l ∈ f.leaves, l.path.length ≤ 3) ∧
      ∀ r ∈ resolved.leaves, ∀ t, r.traversal? = some t →
        t.source = root.name ∧ t.relation ∈ root.relations := by
  have consistent := Registry.build_consistent built
  have paths := Filter.path_of_parse parsed
  refine ⟨fun err refused => ?refused, fun l long => Scope.leaf_long long,
    fun resolved h => ⟨fun l hl => ?_, fun r hr t ht => ?_⟩⟩
  case refused =>
    obtain ⟨before, l, after, hleaves, -, failed⟩ := Scope.resolve_eq_error.mp refused
    have hl : l ∈ f.leaves := by simp [hleaves]
    have cause := Scope.leaf_refuses consistent hroot (paths l hl) failed
    refine ⟨?_, l, hl, failed, Scope.leaf_error failed, ?_, ?_⟩
    · rintro reason part rfl
      cases cause
    · rintro name part rfl
      have short := paths l hl
      cases cause with
      | hidden unsearchable =>
        refine ⟨?_, unsearchable⟩
        rw [Leaf.entity, List.headD_eq_head?_getD]
        cases hpath : l.path with
        | nil => simp [hpath] at short
        | cons first rest => rfl
    · rintro name r hpath hdefault subject member part rfl
      exact Scope.barred_key consistent hroot hpath hdefault cause
  · obtain ⟨r, -, hres⟩ := forall₂_mem_left (Scope.resolve_leaf h) hl
    by_contra long
    rw [Scope.leaf_long (by omega)] at hres
    cases hres
  · obtain ⟨l, -, hres⟩ := forall₂_mem_right (Scope.resolve_leaf h) hr
    exact (Scope.leaf_sound consistent hroot hres).from_root ht

/-- The alias lists the names of writers only, and the name that stands for their key is refused. -/
def Registry.Sample.unwritten : Json :=
  .array [.string "not", Filter.leafNode ["Book", "Writer"] "=" .null]

open Registry.Sample in
theorem writer_bars_key :
    Registry.build [author, book] [writer] = .ok library ∧ book ∈ library.entities ∧
      (∃ f, Filter.parse ⟨2, 1⟩ unwritten = .ok f ∧ ∃ err,
        (Scope.mk library book true).resolve f = .error err ∧
        err = .unknownAttribute "Writer" "id" (Filter.leafNode ["Book", "Writer"] "=" .null)) ∧
      ∃ other ∈ library.aliases, other.name = "Writer" ∧
        ∃ target ∈ library.entities, target.name = other.entity ∧
          ∃ listed, other.attributes = some listed ∧ target.primaryKey ∉ listed := by
  have hbook : book ∈ library.entities := List.mem_cons_of_mem _ List.mem_cons_self
  have parsed : Filter.parse ⟨2, 1⟩ unwritten = .ok (.not (.leaf ⟨["Book", "Writer"], .eq, .null,
    Filter.leafNode ["Book", "Writer"] "=" .null⟩)) := by rfl
  have refused : (Scope.mk library book true).resolve (.not (.leaf ⟨["Book", "Writer"], .eq, .null,
      Filter.leafNode ["Book", "Writer"] "=" .null⟩)) =
    .error (.unknownAttribute "Writer" "id"
      (Filter.leafNode ["Book", "Writer"] "=" .null)) := by rfl
  obtain ⟨causes, -, -⟩ := refusals_have_causes library_built hbook parsed true
  obtain ⟨-, l, hl, -, -, -, barred⟩ := causes _ refused
  cases List.mem_singleton.mp hl
  exact ⟨library_built, hbook, ⟨_, parsed, _, refused, rfl⟩,
    barred "Writer" byWriter rfl rfl _ _ _ rfl⟩

end FieldSearch
