import FieldSearch.Proofs.Search.Lowering
import FieldSearch.Proofs.Search.Resolution
import FieldSearch.Proofs.Search.Index

/-!
# Well-formed plans

The joins of a compiled plan start at the root and are told apart by their numbers. Its predicate
names only attributes that exist, those of a related entity only under the condition on its own
occurrence, and compares them with values of their types.
-/

namespace FieldSearch

/-- A column names an attribute of the root or, inside the condition on its own occurrence, of the
target of a join. -/
inductive Column.Names (registry : Registry) (root : Entity) (joins : List JoinEntry)
    (inside : Option Occurrence) (c : Column) (a : Attribute) : Prop
  | root : c.occurrence = .root → root.attribute? c.name = some a →
      Names registry root joins inside c a
  | joined {e : JoinEntry} {target : Entity} : inside = some c.occurrence → e ∈ joins →
      e.occurrence = c.occurrence → registry.entity? e.target = some target →
      target.attribute? c.name = some a → Names registry root joins inside c a

/-- What a predicate of a compiled plan is like, inside the condition on an occurrence or not. -/
inductive Predicate.WellFormed (registry : Registry) (root : Entity) (joins : List JoinEntry) :
    Option Occurrence → Predicate → Prop
  | compare {inside : Option Occurrence} {c : Column} {a : Attribute} {comparison : Comparison}
      {v : Scalar} : c.Names registry root joins inside a → comparison ≠ .isIn →
      v ≠ .null → v.type? = some a.type →
      (comparison.isPattern = true → a.type = .string) →
      (comparison.isOrdering = true → a.type ≠ .boolean) →
      (∀ p, comparison = .regex → v = .string p → Pattern.isValid p = true) →
      WellFormed registry root joins inside (.compare c comparison v)
  | isIn {inside : Option Occurrence} {c : Column} {a : Attribute} {vs : List Scalar} :
      c.Names registry root joins inside a → (∀ v ∈ vs, v ≠ .null ∧ v.type? = some a.type) →
      WellFormed registry root joins inside (.isIn c vs)
  | isNull {inside : Option Occurrence} {c : Column} {a : Attribute} :
      c.Names registry root joins inside a → WellFormed registry root joins inside (.isNull c)
  | isNotNull {inside : Option Occurrence} {c : Column} {a : Attribute} :
      c.Names registry root joins inside a → WellFormed registry root joins inside (.isNotNull c)
  | exist {o : Occurrence} {inner : Predicate} : o ∈ joins.map (·.occurrence) →
      WellFormed registry root joins (some o) inner →
      WellFormed registry root joins none (.exist o inner)
  | related {o : Occurrence} (present : Bool) :
      o ∈ joins.map (·.occurrence) → WellFormed registry root joins none (.related o present)
  | not {inside : Option Occurrence} {inner : Predicate} :
      WellFormed registry root joins inside inner →
      WellFormed registry root joins inside (.not inner)
  | and {inside : Option Occurrence} {parts : List Predicate} : parts ≠ [] →
      (∀ part ∈ parts, WellFormed registry root joins inside part) →
      WellFormed registry root joins inside (.and parts)
  | or {inside : Option Occurrence} {parts : List Predicate} : parts ≠ [] →
      (∀ part ∈ parts, WellFormed registry root joins inside part) →
      WellFormed registry root joins inside (.or parts)

/-- The entry starts at the root and repeats what its relation says. -/
structure JoinEntry.WellFormed (registry : Registry) (root : Entity) (e : JoinEntry) : Prop where
  source : e.source = root.name
  relation : ∃ r, root.relation? e.relation = some r ∧ e.target = r.target ∧
    e.cardinality = r.cardinality
  target : (registry.entity? e.target).isSome

structure Plan.WellFormed (registry : Registry) (root : Entity) (plan : Plan) : Prop where
  start : registry.searchable? plan.root = some root
  distinct : (plan.joins.map (·.occurrence)).Nodup
  apart : ∀ e ∈ plan.joins, e.occurrence ≠ .root
  joins : ∀ e ∈ plan.joins, e.WellFormed registry root
  predicate : plan.predicate.WellFormed registry root plan.joins none
  order : ∀ t ∈ plan.orderBy,
    t.column.occurrence = .root ∧ (root.attribute? t.column.name).isSome

theorem Plan.WellFormed.root_mem {registry : Registry} {root : Entity} {plan : Plan}
    (wf : plan.WellFormed registry root) : root ∈ registry.entities :=
  (Registry.entity?_eq_some (Registry.searchable?_eq_some wf.start).1).1

namespace Comparison

theorem accepts_pattern {comparison : Comparison} {type : ScalarType}
    (h : comparison.accepts type = true) (hp : comparison.isPattern = true) : type = .string := by
  rw [accepts, if_pos hp] at h
  cases type <;> simp [ScalarType.isText] at h ⊢

theorem accepts_ordering {comparison : Comparison} {type : ScalarType}
    (h : comparison.accepts type = true) (ho : comparison.isOrdering = true) :
    type ≠ .boolean := by
  rintro rfl
  cases comparison <;> simp [accepts, isPattern, isOrdering, ScalarType.isText,
    ScalarType.isOrdered] at h ho

end Comparison

section Lowering

variable {registry : Registry} {root : Entity} {joins : List JoinEntry}
  {inside : Option Occurrence}

theorem Scalar.ne_null_of_type {v : Scalar} {type : ScalarType} (h : v.type? = some type) :
    v ≠ .null := by
  rintro rfl
  cases h

/-- An operand that fits an attribute makes a well-formed condition on its column. -/
theorem Predicate.ofOperand_wellFormed {c : Column} {a : Attribute} {comparison : Comparison}
    {operand : Operand} (names : c.Names registry root joins inside a)
    (accepts : comparison.accepts a.type = true) (fits : operand.Fits comparison a.type) :
    (ofOperand c comparison operand).WellFormed registry root joins inside := by
  cases fits with
  | null equality =>
    rw [ofOperand]
    split
    · exact .isNotNull names
    · exact .isNull names
  | @single v notIn htype pattern =>
    have hne := Scalar.ne_null_of_type htype
    have h : ofOperand c comparison (.single v) = .compare c comparison v := by
      cases v <;> first | rfl | exact absurd rfl hne
    rw [h]
    exact .compare names notIn hne htype (Comparison.accepts_pattern accepts)
      (Comparison.accepts_ordering accepts) pattern
  | @list vs isIn each =>
    have known : WellFormed registry root joins inside (.isIn c (vs.filter (!·.isNull))) := by
      refine .isIn names fun v hv => ?_
      obtain ⟨hmem, hnull⟩ := List.mem_filter.mp hv
      rcases each v hmem with rfl | htype
      · cases hnull
      · exact ⟨Scalar.ne_null_of_type htype, htype⟩
    simp only [ofOperand, ofList]
    split
    · exact known
    · split
      · exact .isNull names
      · refine .or (List.cons_ne_nil _ _) ?_
        simp only [List.forall_mem_cons]
        exact ⟨known, .isNull names, by simp⟩

/-- The entries of a join plan that was made for a search of the root. -/
def JoinPlan.Fits (registry : Registry) (root : Entity) (p : JoinPlan) : Prop :=
  ∀ e ∈ p.entries, ∃ r ∈ root.relations, e.Records ⟨root.name, r⟩ ∧
    (registry.entity? r.target).isSome

variable {p : JoinPlan}

theorem JoinPlan.ofFilter_fits (consistent : registry.Consistent) (hroot : root ∈ registry.entities)
    {f : ResolvedFilter} (sound : ∀ l ∈ f.leaves, l.Sound registry root) :
    (JoinPlan.ofFilter f).Fits registry root := by
  intro e he
  obtain ⟨l, hl, t, ht, records⟩ := mem_ofFilter he
  have hr : ∃ r ∈ root.relations, t = ⟨root.name, r⟩ := by
    cases sound l hl with
    | direct => cases ht
    | via hr => cases ht; exact ⟨_, hr, rfl⟩
    | presence _ hr => cases ht; exact ⟨_, hr, rfl⟩
  obtain ⟨r, hr, rfl⟩ := hr
  obtain ⟨target, -, htarget⟩ := consistent.target? hroot hr
  exact ⟨r, hr, records, by simp [htarget]⟩

/-- Each entry repeats what its relation says, however many there are. -/
theorem JoinPlan.Fits.wellFormed (fits : p.Fits registry root) (sound : root.Sound) :
    ∀ e ∈ p.entries, e.WellFormed registry root := by
  intro e he
  obtain ⟨r, hr, records, htarget⟩ := fits e he
  refine ⟨records.source, ⟨r, ?_, records.target, records.cardinality⟩, records.target ▸ htarget⟩
  exact records.relation ▸ sound.relation? hr

/-- The occurrence that a relation of the root has is that of an entry for its target. -/
theorem JoinPlan.Fits.lookup (fits : p.Fits registry root) (sound : root.Sound) {r : Relation}
    (hr : r ∈ root.relations) {o : Occurrence} (h : p.lookup? root.name r.name = some o) :
    ∃ e ∈ p.entries, e.occurrence = o ∧ e.Records ⟨root.name, r⟩ := by
  obtain ⟨e, he, ho, -, hname⟩ := lookup?_eq_some h
  obtain ⟨r', hr', records, -⟩ := fits e he
  have same : r' = r := by
    have h' := sound.relation? hr'
    rw [show r'.name = r.name from records.relation.symm.trans hname, sound.relation? hr] at h'
    exact (Option.some.inj h').symm
  exact ⟨e, he, ho, same ▸ records⟩

theorem ResolvedFilter.Sound.leaves {f : ResolvedFilter} (sound : f.Sound registry root) :
    ∀ l ∈ f.leaves, l.Sound registry root := by
  induction sound with
  | leaf hl => simpa [ResolvedFilter.leaves] using hl
  | not _ ih => exact ih
  | and _ _ ih =>
    simp only [ResolvedFilter.leaves, ResolvedFilter.leavesOf_eq, List.mem_flatMap]
    rintro l ⟨child, hchild, hl⟩
    exact ih child hchild l hl
  | or _ _ ih =>
    simp only [ResolvedFilter.leaves, ResolvedFilter.leavesOf_eq, List.mem_flatMap]
    rintro l ⟨child, hchild, hl⟩
    exact ih child hchild l hl

theorem Predicate.lowered_wellFormed (hroot : root.Sound) (fits : p.Fits registry root)
    {f : ResolvedFilter} (sound : f.Sound registry root) (serves : p.Serves f) :
    (lowered p f).WellFormed registry root p.entries none := by
  induction sound with
  | leaf hl =>
    cases hl with
    | direct ha accepts operand => exact ofOperand_wellFormed (.root rfl ha) accepts operand
    | via hr ht ha accepts operand =>
      obtain ⟨o, ho, hp⟩ := (serves _ List.mem_cons_self _ rfl).allocate
      obtain ⟨e, he, rfl, records⟩ := fits.lookup hroot hr ho
      rw [lowered_via _ _ _ _ hp]
      refine .exist (List.mem_map_of_mem he) (ofOperand_wellFormed ?_ accepts operand)
      exact .joined rfl he rfl (records.target ▸ ht) ha
    | presence present hr =>
      obtain ⟨o, ho, hp⟩ := (serves _ List.mem_cons_self _ rfl).allocate
      obtain ⟨e, he, rfl, -⟩ := fits.lookup hroot hr ho
      rw [lowered_presence _ hp]
      exact .related present (List.mem_map_of_mem he)
  | not _ ih => exact .not (ih serves)
  | and hne _ ih =>
    rw [lowered_and serves]
    refine .and (by simpa using hne) ?_
    simp only [List.forall_mem_map]
    exact fun child hchild => ih child hchild (serves.and child hchild)
  | or hne _ ih =>
    rw [lowered_or serves]
    refine .or (by simpa using hne) ?_
    simp only [List.forall_mem_map]
    exact fun child hchild => ih child hchild (serves.or child hchild)

end Lowering

section Ordering

variable {registry : Registry} {root : Entity} {keys : List SortKey} {terms : List OrderTerm}

theorem OrderTerm.ofKey_eq_ok {key : SortKey} {t : OrderTerm}
    (h : ofKey registry root key = .ok t) :
    ∃ a, root.attribute? key.name = some a ∧ t = ofAttribute a key.direction := by
  rw [ofKey] at h
  split at h
  next => cases h
  next =>
    split at h
    next a ha =>
      cases h
      split at ha
      · exact ⟨a, ha, rfl⟩
      · cases ha
    next => cases h

theorem OrderTerm.tiebreaker_eq {key : Attribute} (h : root.primaryKeyAttribute? = some key) :
    tiebreaker root = ofAttribute key .asc := by
  have hname : key.name = root.primaryKey := (Entity.attribute?_eq_some h).2
  simp only [tiebreaker, ofAttribute, h, Option.any_some, hname]

/-- Every term is on an attribute of the root. -/
theorem OrderTerm.ofKeys_ofAttribute (sound : root.Sound)
    (h : ofKeys registry root keys = .ok terms) :
    ∀ t ∈ terms, ∃ a direction, root.attribute? a.name = some a ∧ t = ofAttribute a direction := by
  rw [ofKeys] at h
  obtain ⟨bound, hbound, h⟩ := bind_eq_ok.mp h
  have each : ∀ t ∈ bound,
      ∃ a direction, root.attribute? a.name = some a ∧ t = ofAttribute a direction := by
    intro t ht
    obtain ⟨key, -, hkey⟩ := forall₂_mem_right (mapM_eq_ok.mp hbound) ht
    obtain ⟨a, ha, rfl⟩ := ofKey_eq_ok hkey
    exact ⟨a, key.direction, Entity.attribute?_name ha, rfl⟩
  split at h
  · cases h
    exact each
  · cases h
    rw [List.forall_mem_append]
    obtain ⟨key, hkey⟩ := Option.isSome_iff_exists.mp sound.key
    exact ⟨each, List.forall_mem_singleton.mpr
      ⟨key, .asc, Entity.attribute?_name hkey, tiebreaker_eq hkey⟩⟩

theorem OrderTerm.ofKeys_root (sound : root.Sound) (h : ofKeys registry root keys = .ok terms) :
    ∀ t ∈ terms, t.column.occurrence = .root ∧ (root.attribute? t.column.name).isSome := by
  intro t ht
  obtain ⟨a, direction, ha, rfl⟩ := ofKeys_ofAttribute sound h t ht
  exact ⟨rfl, by simp [ofAttribute, ha]⟩

/-- Some term is on the primary key. -/
theorem OrderTerm.ofKeys_key (h : ofKeys registry root keys = .ok terms) :
    ∃ t ∈ terms, t.column.name = root.primaryKey := by
  rw [ofKeys] at h
  obtain ⟨bound, -, h⟩ := bind_eq_ok.mp h
  split at h
  next hany =>
    cases h
    simpa using hany
  next =>
    cases h
    exact ⟨tiebreaker root, List.mem_append_right _ List.mem_cons_self, rfl⟩

end Ordering

namespace Compiler

variable {c : Compiler} {name : String} {filter orderBy : Json} {page : Option Page} {plan : Plan}

theorem root_eq_ok {root : Entity} :
    c.root name = .ok root ↔ c.registry.searchable? name = some root := by
  rw [Compiler.root]
  split
  next e he => simp [he]
  next hnone => simp [hnone]

theorem root_entity {root : Entity} (start : c.root name = .ok root) :
    c.registry.entity? name = some root :=
  (Registry.searchable?_eq_some (root_eq_ok.mp start)).1

theorem root_mem {root : Entity} (start : c.root name = .ok root) : root ∈ c.registry.entities :=
  (Registry.entity?_eq_some (root_entity start)).1

/-- The stages of a compilation that succeeds. -/
theorem compile_eq_ok (h : c.compile name filter orderBy page = .ok plan) :
    ∃ root resolved terms, c.root name = .ok root ∧ c.resolve root filter = .ok resolved ∧
      c.ordering root orderBy = .ok terms ∧
      plan = ⟨root.name, Predicate.lowered (JoinPlan.ofFilter resolved) resolved,
        (JoinPlan.ofFilter resolved).entries, terms, page⟩ := by
  rw [compile_eq] at h
  obtain ⟨root, hroot, h⟩ := bind_eq_ok.mp h
  obtain ⟨resolved, hresolved, h⟩ := bind_eq_ok.mp h
  obtain ⟨terms, hterms, h⟩ := bind_eq_ok.mp h
  cases h
  exact ⟨root, resolved, terms, hroot, hresolved, hterms, rfl⟩

theorem compile_start (h : c.compile name filter orderBy page = .ok plan) {root : Entity}
    (start : c.root name = .ok root) : c.registry.entity? plan.root = some root := by
  obtain ⟨root', resolved, terms, start', -, -, rfl⟩ := compile_eq_ok h
  cases start.symm.trans start'
  have hentity := root_entity start
  rwa [← (Registry.entity?_eq_some hentity).2] at hentity

/-- Stages that succeed make up a compilation. -/
theorem compile_of_stages {root : Entity} {resolved : ResolvedFilter} {terms : List OrderTerm}
    (hroot : c.root name = .ok root) (hresolved : c.resolve root filter = .ok resolved)
    (hterms : c.ordering root orderBy = .ok terms) (page : Option Page) :
    c.compile name filter orderBy page =
      .ok ⟨root.name, Predicate.lowered (JoinPlan.ofFilter resolved) resolved,
        (JoinPlan.ofFilter resolved).entries, terms, page⟩ := by
  rw [compile_eq]
  exact bind_eq_ok.mpr ⟨root, hroot, bind_eq_ok.mpr ⟨resolved, hresolved, bind_eq_ok.mpr
    ⟨terms, hterms, rfl⟩⟩⟩

theorem resolve_sound (consistent : c.registry.Consistent) {root : Entity}
    (hroot : root ∈ c.registry.entities) {resolved : ResolvedFilter}
    (h : c.resolve root filter = .ok resolved) : resolved.Sound c.registry root := by
  obtain ⟨f, hf, h⟩ := bind_eq_ok.mp h
  have hscope : (c.scope root).resolve f = .ok resolved := h
  exact Scope.resolve_sound consistent hroot (Filter.parse_reads hf).1.full hscope

/-- The entries of a compiled plan are well-formed, however many there are. -/
theorem compile_joins (consistent : c.registry.Consistent)
    (h : c.compile name filter orderBy page = .ok plan) :
    ∃ root, c.registry.entity? plan.root = some root ∧
      ∀ e ∈ plan.joins, e.WellFormed c.registry root := by
  obtain ⟨root, resolved, terms, hroot, hresolved, -, rfl⟩ := compile_eq_ok h
  have hentity : c.registry.entity? name = some root := root_entity hroot
  obtain ⟨hmem, rfl⟩ := Registry.entity?_eq_some hentity
  have sound := resolve_sound consistent hmem hresolved
  have fits := JoinPlan.ofFilter_fits consistent hmem sound.leaves
  exact ⟨root, hentity, fits.wellFormed (consistent.sound root hmem)⟩

/-- A plan has no more joins than a filter may have leaves. -/
theorem joins_length_le (h : c.compile name filter orderBy page = .ok plan) :
    plan.joins.length ≤ c.config.maxLeaves := by
  obtain ⟨root, resolved, terms, -, hresolved, -, rfl⟩ := compile_eq_ok h
  obtain ⟨f, hf, hresolve⟩ := bind_eq_ok.mp hresolved
  obtain ⟨reads, within⟩ := Filter.parse_reads hf
  calc (JoinPlan.ofFilter resolved).entries.length
    _ ≤ resolved.leaves.length := JoinPlan.ofFilter_length_le resolved
    _ = f.leaves.length := Scope.resolve_leaves hresolve
    _ = (measure filter).leaves := reads.leaves.symm
    _ ≤ c.config.maxLeaves := within

/-- Where the limit on leaves is a number of 32 bits, so is the number of joins of every plan. -/
theorem joins_countable (small : c.config.maxLeaves < UInt32.size)
    (h : c.compile name filter orderBy page = .ok plan) : plan.joins.length < UInt32.size :=
  Nat.lt_of_le_of_lt (joins_length_le h) small

example : ({} : Config).maxLeaves < UInt32.size := by decide

/-- What a compiled plan comes from. -/
structure Compiles (c : Compiler) (name : String) (filter : Json) (page : Option Page)
    (plan : Plan) (root : Entity) (resolved : ResolvedFilter) : Prop where
  start : c.root name = .ok root
  resolve : c.resolve root filter = .ok resolved
  sound : resolved.Sound c.registry root
  predicate : plan.predicate = Predicate.lowered (JoinPlan.ofFilter resolved) resolved
  joins : plan.joins = (JoinPlan.ofFilter resolved).entries
  page : plan.page = page
  wellFormed : plan.WellFormed c.registry root

/-- A compiled plan is well-formed, as long as its joins can be counted in 32 bits. -/
theorem compile_compiles (consistent : c.registry.Consistent)
    (h : c.compile name filter orderBy page = .ok plan) (size : plan.joins.length < UInt32.size) :
    ∃ root resolved, c.Compiles name filter page plan root resolved := by
  obtain ⟨root, resolved, terms, hroot, hresolved, hterms, rfl⟩ := compile_eq_ok h
  have hsearch := root_eq_ok.mp hroot
  obtain ⟨hentity, -⟩ := Registry.searchable?_eq_some hsearch
  obtain ⟨hmem, hname⟩ := Registry.entity?_eq_some hentity
  have sound := resolve_sound consistent hmem hresolved
  have fits := JoinPlan.ofFilter_fits consistent hmem sound.leaves
  obtain ⟨distinct, apart⟩ := (JoinPlan.ofFilter_valid resolved).occurrences_distinct size
  obtain ⟨keys, -, hkeys⟩ := bind_eq_ok.mp hterms
  exact ⟨root, resolved, hroot, hresolved, sound, rfl, rfl, rfl, hname ▸ hsearch, distinct, apart,
    fits.wellFormed (consistent.sound root hmem),
    Predicate.lowered_wellFormed (consistent.sound root hmem) fits sound
      (JoinPlan.ofFilter_serves resolved),
    OrderTerm.ofKeys_root (consistent.sound root hmem) hkeys⟩

theorem compile_wellFormed (consistent : c.registry.Consistent)
    (h : c.compile name filter orderBy page = .ok plan) (size : plan.joins.length < UInt32.size) :
    ∃ root, plan.WellFormed c.registry root := by
  obtain ⟨root, resolved, compiles⟩ := compile_compiles consistent h size
  exact ⟨root, compiles.wellFormed⟩

/-- Where the limit on leaves is a number of 32 bits, every compiled plan is well-formed. -/
theorem compile_wellFormed_of_small (consistent : c.registry.Consistent)
    (small : c.config.maxLeaves < UInt32.size)
    (h : c.compile name filter orderBy page = .ok plan) :
    ∃ root, plan.WellFormed c.registry root :=
  compile_wellFormed consistent h (joins_countable small h)

end Compiler

end FieldSearch
