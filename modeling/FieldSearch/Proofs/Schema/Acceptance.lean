import FieldSearch.Proofs.Schema.Consistency
import Mathlib.Data.List.Nodup
import Mathlib.Tactic.MkIffOfInductiveProp

/-!
# Accepted definitions

The definitions that a registry is built from are exactly those that fit together, which is said
here of the definitions in whatever order. The registry does not depend on their order either.
-/

namespace FieldSearch

namespace Registry

/-- The definitions fit together. -/
@[mk_iff]
structure Coherent (entities : List Entity) (aliases : List EntityAlias) : Prop where
  entityNames : (entities.map (·.name)).Nodup
  memberNames : ∀ e ∈ entities,
    (e.attributes.map (·.name) ++ e.relations.map (·.name)).Nodup
  primaryKeys : ∀ e ∈ entities, ∃ a ∈ e.attributes, a.name = e.primaryKey
  aliasNames : (aliases.map (·.name)).Nodup
  aliasesFresh : ∀ a ∈ aliases, ∀ e ∈ entities, e.name ≠ a.name
  /-- An alias stands for an entity and lists nothing but attributes of it. -/
  aliasEntities : ∀ a ∈ aliases, ∃ e ∈ entities, e.name = a.entity ∧
    ∀ names, a.attributes = some names → ∀ name ∈ names, ∃ b ∈ e.attributes, b.name = name
  targets : ∀ e ∈ entities, ∀ r ∈ e.relations, ∃ t ∈ entities, t.name = r.target
  storage : ∀ e ∈ entities, ∀ r ∈ e.relations,
    (r.cardinality = .toOne ↔ ∃ column, r.join = .foreignKey column)
  defaultAliases : ∀ e ∈ entities, ∀ r ∈ e.relations, ∀ name, r.defaultAlias = some name →
    ∃ a ∈ aliases, a.name = name ∧ a.entity = r.target
  defaults : ∀ e ∈ entities, ((e.relations.filter (·.isDefault)).map (·.defaultKey)).Nodup

/-! ### Order does not matter -/

theorem Coherent.perm {entities entities' : List Entity} {aliases aliases' : List EntityAlias}
    (coherent : Coherent entities aliases) (he : entities.Perm entities')
    (ha : aliases.Perm aliases') : Coherent entities' aliases' := by
  rw [coherent_iff] at coherent ⊢
  simpa only [← (he.map _).nodup_iff, ← (ha.map _).nodup_iff, ← he.mem_iff, ← ha.mem_iff]
    using coherent

@[simp]
theorem withTable_name (e : Entity) : e.withTable.name = e.name := by
  rw [Entity.withTable]
  split <;> rfl

@[simp]
theorem withTable_primaryKey (e : Entity) : e.withTable.primaryKey = e.primaryKey := by
  rw [Entity.withTable]
  split <;> rfl

@[simp]
theorem withTable_attributes (e : Entity) : e.withTable.attributes = e.attributes := by
  rw [Entity.withTable]
  split <;> rfl

@[simp]
theorem withTable_relations (e : Entity) : e.withTable.relations = e.relations := by
  rw [Entity.withTable]
  split <;> rfl

/-- The table of an entity has no part in it. -/
theorem coherent_withTable {entities : List Entity} {aliases : List EntityAlias} :
    Coherent (entities.map (·.withTable)) aliases ↔ Coherent entities aliases := by
  simp [coherent_iff, Function.comp_def]

/-! ### Coherent definitions make a consistent registry -/

theorem attribute?_isSome {e : Entity} {name : String} :
    (e.attribute? name).isSome ↔ ∃ a ∈ e.attributes, a.name = name := by
  simp [Entity.attribute?]

theorem storageFits_iff {r : Relation} :
    storageFits r = true ↔ (r.cardinality = .toOne ↔ ∃ column, r.join = .foreignKey column) := by
  cases hc : r.cardinality <;> cases hj : r.join <;> simp [storageFits, hc, hj]

/-- The relations that are the default way to a name, counted by their keys. -/
theorem length_defaultsFor (e : Entity) (key : String) :
    (defaultsFor e key).length =
      ((e.relations.filter (·.isDefault)).map (·.defaultKey)).count key := by
  rw [defaultsFor, List.count, List.countP_map, List.countP_filter, List.countP_eq_length_filter]
  congr 2
  funext r
  simp [Bool.and_comm]

theorem defaults_distinct {e : Entity} :
    ((e.relations.filter (·.isDefault)).map (·.defaultKey)).Nodup ↔
      ∀ key, (defaultsFor e key).length ≤ 1 := by
  simp only [List.nodup_iff_count_le_one, length_defaultsFor]

theorem Consistent.defaultsFor_le {registry : Registry} (consistent : registry.Consistent)
    {e : Entity} (he : e ∈ registry.entities) (key : String) :
    (defaultsFor e key).length ≤ 1 := by
  cases h : defaultsFor e key with
  | nil => simp
  | cons r rest =>
    have hr : r ∈ defaultsFor e key := h ▸ List.mem_cons_self
    simp only [defaultsFor, List.mem_filter, Bool.and_eq_true, beq_iff_eq] at hr
    obtain ⟨hmem, hdefault, rfl⟩ := hr
    rw [← h]
    exact consistent.defaults e he r hmem hdefault

theorem Consistent.coherent {registry : Registry} (consistent : registry.Consistent) :
    Coherent registry.entities registry.aliases where
  entityNames := consistent.entityNames
  memberNames := fun e he => (consistent.sound e he).members
  primaryKeys := fun e he => attribute?_isSome.mp (consistent.sound e he).key
  aliasNames := consistent.aliasNames
  aliasesFresh := fun a ha => (consistent.aliases a ha).fresh
  aliasEntities := by
    intro a ha
    obtain ⟨e, he, listed⟩ := (consistent.aliases a ha).entity
    obtain ⟨hmem, hname⟩ := find?_name_eq_some he
    refine ⟨e, hmem, hname, fun names hnames name h => attribute?_isSome.mp (listed name ?_)⟩
    rw [hnames]
    exact h
  targets := fun e he r hr => (consistent.relations e he r hr).target
  storage := fun e he r hr => storageFits_iff.mp (consistent.relations e he r hr).storage
  defaultAliases := fun e he r hr => (consistent.relations e he r hr).aliased
  defaults := fun e he => defaults_distinct.mpr (consistent.defaultsFor_le he)

theorem Coherent.consistent {entities : List Entity} {aliases : List EntityAlias}
    (coherent : Coherent entities aliases) : Consistent ⟨entities, aliases⟩ where
  entityNames := coherent.entityNames
  aliasNames := coherent.aliasNames
  sound := fun e he =>
    ⟨coherent.memberNames e he, attribute?_isSome.mpr (coherent.primaryKeys e he)⟩
  aliases := by
    intro a ha
    obtain ⟨e, he, hname, listed⟩ := coherent.aliasEntities a ha
    have found := find?_name_of_mem _ coherent.entityNames he
    refine ⟨coherent.aliasesFresh a ha, e, hname ▸ found, fun name h => ?_⟩
    cases hattributes : a.attributes with
    | none =>
      rw [hattributes] at h
      cases h
    | some names =>
      rw [hattributes, Option.getD_some] at h
      exact attribute?_isSome.mpr (listed names hattributes name h)
  relations := fun e he r hr =>
    ⟨coherent.targets e he r hr, storageFits_iff.mpr (coherent.storage e he r hr),
      coherent.defaultAliases e he r hr⟩
  defaults := fun e he r _ _ => defaults_distinct.mp (coherent.defaults e he) r.defaultKey

/-! ### Definitions in order -/

section Order

variable {α : Type} {key : α → String}

/-- The list in the order of its keys. -/
def inOrder (key : α → String) (as : List α) : List α :=
  as.foldl (fun sorted a => insertSorted key a sorted) []

theorem foldl_insertSorted_perm (as known : List α) :
    (as.foldl (fun sorted a => insertSorted key a sorted) known).Perm (as ++ known) := by
  induction as generalizing known with
  | nil => exact .refl _
  | cons a rest ih =>
    have inserted := (insertSorted_perm key a known).append_left rest
    exact (ih _).trans (inserted.trans List.perm_middle)

theorem inOrder_perm (as : List α) : (inOrder key as).Perm as := by
  simpa [inOrder] using foldl_insertSorted_perm as []

theorem insertSorted_sorted (a : α) {as : List α} (h : as.Pairwise (key · ≤ key ·)) :
    (insertSorted key a as).Pairwise (key · ≤ key ·) := by
  induction as with
  | nil => simp [insertSorted]
  | cons b rest ih =>
    obtain ⟨hb, hrest⟩ := List.pairwise_cons.mp h
    rw [insertSorted]
    split
    next hlt =>
      have hle : key a ≤ key b := (String.le_total _ _).resolve_right (String.not_le.mpr hlt)
      refine List.pairwise_cons.mpr ⟨fun c hc => ?_, h⟩
      rcases List.mem_cons.mp hc with rfl | hc
      · exact hle
      · exact String.le_trans hle (hb c hc)
    next hge =>
      refine List.pairwise_cons.mpr ⟨fun c hc => ?_, ih hrest⟩
      rcases List.mem_cons.mp ((insertSorted_perm key a rest).mem_iff.mp hc) with rfl | hc
      · exact String.not_lt.mp hge
      · exact hb c hc

theorem inOrder_sorted (as : List α) : (inOrder key as).Pairwise (key · ≤ key ·) := by
  have sorted : ∀ known : List α, known.Pairwise (key · ≤ key ·) →
      (as.foldl (fun sorted a => insertSorted key a sorted) known).Pairwise (key · ≤ key ·) := by
    induction as with
    | nil => exact fun _ h => h
    | cons a rest ih => exact fun known h => ih _ (insertSorted_sorted a h)
  exact sorted [] .nil

/-- Lists with distinct keys have one order. -/
theorem inOrder_eq_of_perm {as bs : List α} (h : as.Perm bs) (distinct : (as.map key).Nodup) :
    inOrder key as = inOrder key bs := by
  have perm : (inOrder key as).Perm (inOrder key bs) :=
    (inOrder_perm as).trans (h.trans (inOrder_perm bs).symm)
  refine List.Perm.eq_of_pairwise ?_ (inOrder_sorted as) (inOrder_sorted bs) perm
  intro a b ha hb hab hba
  have ha' : a ∈ as := (inOrder_perm as).mem_iff.mp ha
  have hb' : b ∈ as := h.mem_iff.mpr ((inOrder_perm bs).mem_iff.mp hb)
  exact List.inj_on_of_nodup_map distinct ha' hb' (String.le_antisymm hab hba)

/-- Elements are added one after another just if each of them is sound and their keys are new. -/
theorem foldlM_insertSorted {ε : Type} (adjust : α → α) {Sound : α → Prop}
    {add : List α → α → Except ε (List α)}
    (step : ∀ known a known', add known a = .ok known' ↔
      Sound a ∧ (∀ k ∈ known, key k ≠ key (adjust a)) ∧
        known' = insertSorted key (adjust a) known)
    {as known known' : List α} :
    as.foldlM add known = .ok known' ↔
      (∀ a ∈ as, Sound a) ∧ ((as.map adjust).map key).Nodup ∧
        (∀ a ∈ as, ∀ k ∈ known, key k ≠ key (adjust a)) ∧
        known' = (as.map adjust).foldl (fun sorted a => insertSorted key a sorted) known := by
  induction as generalizing known with
  | nil => simp [pure, Except.pure, eq_comm]
  | cons a rest ih =>
    simp only [List.foldlM_cons, bind_eq_ok, step, ih, List.forall_mem_cons, List.map_cons,
      List.nodup_cons, List.foldl_cons]
    constructor
    · rintro ⟨_, ⟨sound, fresh, rfl⟩, sounds, distinct, freshRest, rfl⟩
      simp only [(insertSorted_perm key (adjust a) known).mem_iff, List.forall_mem_cons]
        at freshRest
      refine ⟨⟨sound, sounds⟩, ⟨?_, distinct⟩, ⟨fresh, fun b hb => (freshRest b hb).2⟩, rfl⟩
      simp only [List.map_map, List.mem_map, Function.comp_apply, not_exists, not_and]
      exact fun b hb h => (freshRest b hb).1 h.symm
    · rintro ⟨⟨sound, sounds⟩, ⟨notIn, distinct⟩, ⟨fresh, freshRest⟩, rfl⟩
      refine ⟨_, ⟨sound, fresh, rfl⟩, sounds, distinct, fun b hb k hk => ?_, rfl⟩
      rcases List.mem_cons.mp ((insertSorted_perm key (adjust a) known).mem_iff.mp hk) with rfl | hk
      · intro h
        exact notIn (h ▸ List.mem_map_of_mem (List.mem_map_of_mem hb))
      · exact freshRest b hb k hk

end Order

/-! ### Building -/

/-- The definitions as a registry keeps them. -/
def arranged (entities : List Entity) (aliases : List EntityAlias) : Registry :=
  ⟨inOrder (·.name) (entities.map (·.withTable)), inOrder (·.name) aliases⟩

variable {entities : List Entity} {aliases : List EntityAlias}

theorem foldlM_addEntity {known : List Entity} :
    entities.foldlM addEntity [] = .ok known ↔
      (∀ e ∈ entities, e.withTable.Sound) ∧ (entities.map (·.name)).Nodup ∧
        known = inOrder (·.name) (entities.map (·.withTable)) := by
  rw [foldlM_insertSorted (·.withTable) fun _ _ _ => addEntity_eq_ok]
  simp [inOrder, Function.comp_def]

theorem foldlM_addAlias {known : List Entity} {named : List EntityAlias} :
    aliases.foldlM (addAlias known) [] = .ok named ↔
      (∀ a ∈ aliases, AliasFits known a) ∧ (aliases.map (·.name)).Nodup ∧
        named = inOrder (·.name) aliases := by
  rw [foldlM_insertSorted id fun _ _ _ => addAlias_eq_ok]
  simp [inOrder]

theorem Coherent.arranged (coherent : Coherent entities aliases) :
    Coherent (arranged entities aliases).entities (arranged entities aliases).aliases :=
  (coherent_withTable.mpr coherent).perm (inOrder_perm _).symm (inOrder_perm _).symm

/-- Coherent definitions are accepted and put in order, and no others are accepted. -/
theorem build_eq_ok {registry : Registry} :
    build entities aliases = .ok registry ↔
      Coherent entities aliases ∧ registry = arranged entities aliases := by
  constructor
  · intro h
    have coherent := (build_consistent h).coherent
    simp only [build, bind_eq_ok, foldlM_addEntity, foldlM_addAlias, pure, Except.pure] at h
    obtain ⟨known, ⟨-, -, rfl⟩, named, ⟨-, -, rfl⟩, ⟨⟩, -, h⟩ := h
    cases h
    exact ⟨coherent_withTable.mp (coherent.perm (inOrder_perm _) (inOrder_perm _)), rfl⟩
  · rintro ⟨coherent, rfl⟩
    have consistent := coherent.arranged.consistent
    simp only [build, bind_eq_ok, foldlM_addEntity, foldlM_addAlias, pure, Except.pure]
    refine ⟨_, ⟨?sound, coherent.entityNames, rfl⟩, _, ⟨?fit, coherent.aliasNames, rfl⟩, (),
      ?checked, rfl⟩
    case sound =>
      intro e he
      exact consistent.sound _ ((inOrder_perm _).mem_iff.mpr (List.mem_map_of_mem he))
    case fit =>
      intro a ha
      exact consistent.aliases a ((inOrder_perm _).mem_iff.mpr ha)
    case checked =>
      refine forM_eq_ok.mpr fun e he => ?_
      refine bind_eq_ok.mpr ⟨(), forM_eq_ok.mpr fun r hr => ?_, ?_⟩
      · exact checkRelation_eq_ok.mpr (consistent.relations e he r hr)
      · exact checkDefaults_eq_ok.mpr (consistent.defaults e he)

theorem arranged_eq_of_perm (coherent : Coherent entities aliases) {entities' : List Entity}
    {aliases' : List EntityAlias} (he : entities.Perm entities') (ha : aliases.Perm aliases') :
    arranged entities aliases = arranged entities' aliases' := by
  have distinct := (coherent_withTable.mpr coherent).entityNames
  rw [arranged, arranged, inOrder_eq_of_perm (he.map _) distinct,
    inOrder_eq_of_perm ha coherent.aliasNames]

/-- Exactly coherent definitions are accepted, in any order with one registry, in which a name has
one default way at most, and it leads to what the name stands for. -/
theorem build_exact (entities : List Entity) (aliases : List EntityAlias) :
    ((∃ registry, build entities aliases = .ok registry) ↔ Coherent entities aliases) ∧
    (∀ entities' aliases', entities.Perm entities' → aliases.Perm aliases' →
      ∀ registry, build entities aliases = .ok registry ↔
        build entities' aliases' = .ok registry) ∧
    ∀ registry, build entities aliases = .ok registry → ∀ e ∈ registry.entities, ∀ name,
      (e.relations.filter fun r => r.isDefault && r.defaultKey == name).length ≤ 1 ∧
      ∀ r, e.defaultTraversal? name = some r →
        ∃ target other, registry.entityOrAlias? name = some (target, other) ∧
          registry.entity? r.target = some target := by
  refine ⟨⟨?coherent, ?accepted⟩, ?perm, ?defaults⟩
  case coherent =>
    rintro ⟨registry, h⟩
    exact (build_eq_ok.mp h).1
  case accepted =>
    intro coherent
    exact ⟨_, build_eq_ok.mpr ⟨coherent, rfl⟩⟩
  case perm =>
    intro entities' aliases' he ha registry
    rw [build_eq_ok, build_eq_ok]
    constructor
    · rintro ⟨coherent, rfl⟩
      exact ⟨coherent.perm he ha, arranged_eq_of_perm coherent he ha⟩
    · rintro ⟨coherent, rfl⟩
      exact ⟨coherent.perm he.symm ha.symm, arranged_eq_of_perm coherent he.symm ha.symm⟩
  case defaults =>
    intro registry h e he name
    have consistent := build_consistent h
    exact ⟨consistent.defaultsFor_le he name,
      fun r hr => consistent.entityOrAlias?_of_default he hr⟩

namespace Sample

def author : Entity :=
  ⟨"Author", "author", "id", true, [⟨"id", .integer⟩, ⟨"name", .string⟩], []⟩

/-- The default ways of a book to `Author` and to `Writer` are two relations to one entity. -/
def book : Entity :=
  ⟨"Book", "book", "id", true, [⟨"id", .integer⟩],
    [(Relation.toOne "editor" "Author" "editor_id").asDefault,
      (Relation.toOne "writer" "Author" "writer_id").asDefaultFor "Writer"]⟩

def writer : EntityAlias := ⟨"Writer", "Author", some ["name"]⟩

def library : Registry := ⟨[author, book], [writer]⟩

end Sample

theorem sample_accepted_in_any_order :
    Coherent [Sample.book, Sample.author] [Sample.writer] ∧
    build [Sample.author, Sample.book] [Sample.writer] = .ok Sample.library ∧
    ∃ target other, Sample.library.entityOrAlias? "Writer" = some (target, other) ∧
      Sample.library.entity? "Author" = some target := by
  have built : build [Sample.book, Sample.author] [Sample.writer] = .ok Sample.library := rfl
  have hbook : Sample.book ∈ Sample.library.entities := by simp [Sample.library]
  obtain ⟨coherent, anyOrder, defaults⟩ :=
    build_exact [Sample.book, Sample.author] [Sample.writer]
  exact ⟨coherent.mp ⟨_, built⟩,
    (anyOrder _ _ (.swap _ _ _) (.refl _) Sample.library).mp built,
    (defaults Sample.library built Sample.book hbook "Writer").2 _ rfl⟩

end Registry

end FieldSearch
