import FieldSearch.Proofs.Filter.Shuffle
import FieldSearch.Proofs.Search.Canonical
import Mathlib.Logic.Equiv.Defs

/-!
# The numbers of occurrences

The numbers of occurrences follow the order in which the leaves of a filter take their relations.
Filters that differ only in the order of their parts are compiled to plans with the same joins,
numbered differently. One renaming of the occurrences, which leaves the root alone, takes the joins
of one plan to those of the other, and its predicate to the other one with the parts in the same
order.
-/

namespace FieldSearch

/-! ### Renaming occurrences -/

def Column.rename (ρ : Occurrence → Occurrence) (c : Column) : Column :=
  { c with occurrence := ρ c.occurrence }

def JoinEntry.rename (ρ : Occurrence → Occurrence) (e : JoinEntry) : JoinEntry :=
  { e with occurrence := ρ e.occurrence }

theorem JoinEntry.Records.rename_eq {e e' : JoinEntry} {t : Traversal} (h : e.Records t)
    (h' : e'.Records t) {ρ : Occurrence → Occurrence} (ho : ρ e.occurrence = e'.occurrence) :
    e.rename ρ = e' := by
  cases e'
  simp only [rename, mk.injEq]
  exact ⟨ho, h.source.trans h'.source.symm, h.relation.trans h'.relation.symm,
    h.target.trans h'.target.symm, h.cardinality.trans h'.cardinality.symm⟩

namespace Predicate

mutual

/-- The predicate with its occurrences renamed. -/
def rename (ρ : Occurrence → Occurrence) : Predicate → Predicate
  | compare column comparison value => compare (column.rename ρ) comparison value
  | isIn column values => isIn (column.rename ρ) values
  | isNull column => isNull (column.rename ρ)
  | isNotNull column => isNotNull (column.rename ρ)
  | exist o inner => exist (ρ o) (inner.rename ρ)
  | related o present => related (ρ o) present
  | not inner => not (inner.rename ρ)
  | and parts => and (renameAll ρ parts)
  | or parts => or (renameAll ρ parts)

def renameAll (ρ : Occurrence → Occurrence) : List Predicate → List Predicate
  | [] => []
  | part :: rest => part.rename ρ :: renameAll ρ rest

end

@[simp]
theorem renameAll_eq (ρ : Occurrence → Occurrence) (parts : List Predicate) :
    renameAll ρ parts = parts.map (rename ρ) := by
  induction parts with
  | nil => rfl
  | cons part rest ih => rw [renameAll, ih, List.map_cons]

/-- The occurrence of a column is all that is renamed in the condition of an operand. -/
theorem rename_ofOperand (ρ : Occurrence → Occurrence) (c : Column) (comparison : Comparison)
    (operand : Operand) :
    (ofOperand c comparison operand).rename ρ = ofOperand (c.rename ρ) comparison operand := by
  cases operand with
  | single v =>
    cases v with
    | null => by_cases h : comparison = .ne <;> simp [ofOperand, h, rename]
    | _ => rfl
  | list vs =>
    simp only [ofOperand, ofList]
    split
    · rfl
    · split
      · rfl
      · simp [rename]

end Predicate

/-! ### Shuffled predicates -/

namespace Shuffle

mutual

/-- The predicate with its parts in the order of the shuffle. -/
def onPredicate : Shuffle → Predicate → Predicate
  | not inner, .not part => .not (inner.onPredicate part)
  | group places inner, .and parts => .and (pick places (onPredicates inner parts))
  | group places inner, .or parts => .or (pick places (onPredicates inner parts))
  | _, p => p

def onPredicates : List Shuffle → List Predicate → List Predicate
  | first :: others, part :: parts => first.onPredicate part :: onPredicates others parts
  | _, _ => []

end

@[simp]
theorem onPredicate_keep (p : Predicate) : keep.onPredicate p = p := by
  cases p <;> rfl

theorem onPredicates_eq (σs : List Shuffle) (ps : List Predicate) :
    onPredicates σs ps = (σs.zip ps).map fun q => q.1.onPredicate q.2 := by
  induction σs generalizing ps with
  | nil => rfl
  | cons σ rest ih =>
    cases ps with
    | nil => rfl
    | cons p others => rw [onPredicates, ih, List.zip_cons_cons, List.map_cons]

end Shuffle

namespace Filter

variable {condition condition' : Leaf → Predicate}

@[simp]
theorem assembleAll_eq (condition : Leaf → Predicate) (fs : List Filter) :
    assembleAll condition fs = fs.map (assemble condition) := by
  induction fs with
  | nil => rfl
  | cons f rest ih => rw [assembleAll, ih, List.map_cons]

theorem assemble_congr {f : Filter} (same : ∀ l ∈ f.leaves, condition l = condition' l) :
    f.assemble condition = f.assemble condition' := by
  induction f using induct with
  | leaf l => exact same l List.mem_cons_self
  | not child ih => rw [assemble, assemble, ih same]
  | and children ih =>
    simp only [leaves, leavesOf_eq, List.mem_flatMap] at same
    rw [assemble, assemble, assembleAll_eq, assembleAll_eq, List.map_congr_left]
    exact fun f hf => ih f hf fun l hl => same l ⟨f, hf, hl⟩
  | or children ih =>
    simp only [leaves, leavesOf_eq, List.mem_flatMap] at same
    rw [assemble, assemble, assembleAll_eq, assembleAll_eq, List.map_congr_left]
    exact fun f hf => ih f hf fun l hl => same l ⟨f, hf, hl⟩

/-- Renaming the predicate of a filter renames the condition of each leaf. -/
theorem rename_assemble (ρ : Occurrence → Occurrence) (condition : Leaf → Predicate) (f : Filter) :
    (f.assemble condition).rename ρ = f.assemble fun l => (condition l).rename ρ := by
  induction f using induct with
  | leaf l => rfl
  | not child ih => rw [assemble, assemble, Predicate.rename, ih]
  | and children ih =>
    simp only [assemble, assembleAll_eq, Predicate.rename, Predicate.renameAll_eq, List.map_map]
    exact congrArg Predicate.and (List.map_congr_left ih)
  | or children ih =>
    simp only [assemble, assembleAll_eq, Predicate.rename, Predicate.renameAll_eq, List.map_map]
    exact congrArg Predicate.or (List.map_congr_left ih)

end Filter

namespace Shuffle

variable {σ : Shuffle} {σs : List Shuffle} (condition : Leaf → Predicate)

theorem assemble_onFilters {fs : List Filter}
    (each : ∀ p ∈ σs.zip fs,
      (p.1.onFilter p.2).assemble condition = p.1.onPredicate (p.2.assemble condition)) :
    (onFilters σs fs).map (Filter.assemble condition) =
      onPredicates σs (fs.map (Filter.assemble condition)) := by
  rw [onFilters_eq, onPredicates_eq, List.zip_map_right, List.map_map, List.map_map]
  exact List.map_congr_left each

/-- The predicate of a shuffled filter is the predicate of the filter, shuffled alike. -/
theorem FitsFilter.assemble {f : Filter} (fits : σ.FitsFilter f) :
    (σ.onFilter f).assemble condition = σ.onPredicate (f.assemble condition) := by
  induction fits with
  | keep f => rw [onFilter_keep, onPredicate_keep]
  | not _ ih => rw [onFilter, Filter.assemble, ih, Filter.assemble, onPredicate]
  | and _ _ _ ih =>
    simp only [onFilter, Filter.assemble, Filter.assembleAll_eq, onPredicate, map_pick,
      assemble_onFilters condition ih]
  | or _ _ _ ih =>
    simp only [onFilter, Filter.assemble, Filter.assembleAll_eq, onPredicate, map_pick,
      assemble_onFilters condition ih]

end Shuffle

/-! ### Join plans with the same joins -/

namespace JoinPlan

/-- Two join plans have the same joins, in whatever order. -/
structure Alike (p p' : JoinPlan) : Prop where
  valid : p.Valid
  valid' : p'.Valid
  keys : (p.entries.map (·.key)).Perm (p'.entries.map (·.key))
  size : p.entries.length < UInt32.size

/-- What the second join plan calls an occurrence of the first. -/
def counterpart (p p' : JoinPlan) (o : Occurrence) : Occurrence :=
  match p.entries.find? (·.occurrence == o) with
  | some e => p'.occurrenceAt e.key
  | none => o

theorem Has.allocate_eq {p : JoinPlan} {t : Traversal} (h : p.Has t) :
    p.allocate t = (p.occurrenceAt t.key, p) := by
  obtain ⟨o, hlookup, ho⟩ := h.allocate
  simp [ho, occurrenceAt, Traversal.key, hlookup]

namespace Alike

variable {p p' : JoinPlan}

theorem length_eq (alike : p.Alike p') : p.entries.length = p'.entries.length := by
  simpa using alike.keys.length_eq

theorem symm (alike : p.Alike p') : p'.Alike p :=
  ⟨alike.valid', alike.valid, alike.keys.symm, alike.length_eq ▸ alike.size⟩

/-- As many joins have the same numbers. -/
theorem occurrences (alike : p.Alike p') :
    p.entries.map (·.occurrence) = p'.entries.map (·.occurrence) := by
  rw [alike.valid.occurrences, alike.valid'.occurrences, alike.length_eq]

theorem counterpart_entry (alike : p.Alike p') {e : JoinEntry} (he : e ∈ p.entries) :
    p.counterpart p' e.occurrence = p'.occurrenceAt e.key := by
  have distinct := (alike.valid.occurrences_distinct alike.size).1
  have found := find?_name_of_mem (·.occurrence) distinct he
  simp [counterpart, found]

theorem counterpart_other {o : Occurrence} (h : o ∉ p.entries.map (·.occurrence)) :
    p.counterpart p' o = o := by
  have hnone : p.entries.find? (·.occurrence == o) = none := by
    simpa [List.find?_eq_none] using h
  simp [counterpart, hnone]

/-- The join of the other plan has the occurrence that the join is renamed to. -/
theorem exists_entry (alike : p.Alike p') {e : JoinEntry} (he : e ∈ p.entries) :
    ∃ e' ∈ p'.entries, e'.key = e.key ∧ p.counterpart p' e.occurrence = e'.occurrence := by
  have hkey : e.key ∈ p'.entries.map (·.key) :=
    alike.keys.mem_iff.mp (List.mem_map_of_mem he)
  obtain ⟨e', he', hsame⟩ := List.mem_map.mp hkey
  refine ⟨e', he', hsame, ?_⟩
  rw [alike.counterpart_entry he, ← hsame, alike.valid'.occurrenceAt_key he']

/-- Renaming there and back again changes nothing. -/
theorem counterpart_counterpart (alike : p.Alike p') (o : Occurrence) :
    p'.counterpart p (p.counterpart p' o) = o := by
  by_cases ho : o ∈ p.entries.map (·.occurrence)
  · obtain ⟨e, he, rfl⟩ := List.mem_map.mp ho
    obtain ⟨e', he', hkey, hrenamed⟩ := alike.exists_entry he
    rw [hrenamed, alike.symm.counterpart_entry he', hkey, alike.valid.occurrenceAt_key he]
  · rw [counterpart_other ho, counterpart_other (alike.occurrences ▸ ho)]

/-- The renaming of the occurrences of one join plan to those of the other. -/
def occurrence (alike : p.Alike p') : Equiv.Perm Occurrence where
  toFun := p.counterpart p'
  invFun := p'.counterpart p
  left_inv := alike.counterpart_counterpart
  right_inv := alike.symm.counterpart_counterpart

theorem counterpart_root (alike : p.Alike p') : p.counterpart p' .root = .root := by
  refine counterpart_other fun h => ?_
  obtain ⟨e, he, ho⟩ := List.mem_map.mp h
  exact (alike.valid.occurrences_distinct alike.size).2 e he ho

/-- The occurrence of a traversal is renamed to its occurrence in the other plan. -/
theorem counterpart_occurrenceAt (alike : p.Alike p') {t : Traversal} (has : p.Has t) :
    p.counterpart p' (p.occurrenceAt t.key) = p'.occurrenceAt t.key := by
  obtain ⟨e, he, hkey⟩ := has.exists_entry
  rw [← hkey, alike.valid.occurrenceAt_key he, alike.counterpart_entry he]

variable {registry : Registry} {root : Entity}

theorem rename_mem (alike : p.Alike p') (sound : root.Sound) (fits : p.Fits registry root)
    (fits' : p'.Fits registry root) {e : JoinEntry} (he : e ∈ p.entries) :
    e.rename (p.counterpart p') ∈ p'.entries := by
  obtain ⟨e', he', hkey, hrenamed⟩ := alike.exists_entry he
  obtain ⟨r, hr, records, -⟩ := fits e he
  obtain ⟨r', hr', records', -⟩ := fits' e' he'
  have hname : r'.name = r.name := records'.relation.symm.trans
    ((congrArg Prod.snd hkey).trans records.relation)
  cases sound.relation_injective hr' hr hname
  exact records.rename_eq records' hrenamed ▸ he'

/-- The joins of one plan are those of the other, with their occurrences renamed. -/
theorem joins (alike : p.Alike p') (sound : root.Sound) (fits : p.Fits registry root)
    (fits' : p'.Fits registry root) :
    (p.entries.map (·.rename (p.counterpart p'))).Perm p'.entries := by
  have keys : ((p.entries.map (·.rename (p.counterpart p'))).map (·.key)).Nodup := by
    rw [List.map_map]
    exact alike.valid.distinct
  -- Neither list has a join twice, so it is enough that they have the same members.
  rw [List.perm_ext_iff_of_nodup keys.of_map alike.valid'.distinct.of_map]
  intro e'
  constructor
  · intro h
    obtain ⟨e, he, rfl⟩ := List.mem_map.mp h
    exact alike.rename_mem sound fits fits' he
  · intro he'
    obtain ⟨e, he, hkey, -⟩ := alike.symm.exists_entry he'
    have hmem := alike.rename_mem sound fits fits' he
    have same : e.rename (p.counterpart p') = e' :=
      List.inj_on_of_nodup_map alike.valid'.distinct hmem he' hkey
    exact same ▸ List.mem_map_of_mem he

open Predicate in
/-- The condition of a leaf in the other plan is its condition, with the occurrences renamed. -/
theorem lowered_leaf (alike : p.Alike p') {l : ResolvedLeaf}
    (has : ∀ t, l.traversal? = some t → p.Has t) (has' : ∀ t, l.traversal? = some t → p'.Has t) :
    lowered p' (.leaf l) = (lowered p (.leaf l)).rename (p.counterpart p') := by
  cases l with
  | compare via entity name comparison operand =>
    cases via with
    | none =>
      change ofOperand _ _ _ = (ofOperand _ _ _).rename _
      rw [rename_ofOperand, Column.rename, alike.counterpart_root]
    | some t =>
      rw [lowered_via _ _ _ _ (has t rfl).allocate_eq, lowered_via _ _ _ _ (has' t rfl).allocate_eq,
        rename, rename_ofOperand, Column.rename, alike.counterpart_occurrenceAt (has t rfl)]
  | presence t present =>
    rw [lowered_presence _ (has t rfl).allocate_eq, lowered_presence _ (has' t rfl).allocate_eq,
      rename, alike.counterpart_occurrenceAt (has t rfl)]

end Alike

end JoinPlan

/-! ### Resolving a shuffled filter -/

theorem eraseDups_perm {α : Type} [BEq α] [LawfulBEq α] {as bs : List α} (perm : as.Perm bs) :
    as.eraseDups.Perm bs.eraseDups := by
  rw [List.perm_ext_iff_of_nodup (nodup_eraseDups as) (nodup_eraseDups bs)]
  intro a
  rw [List.mem_eraseDups, List.mem_eraseDups, perm.mem_iff]

namespace Scope

variable {scope : Scope} {f : Filter}

variable {σ : Shuffle} (fits : σ.FitsFilter f)

include fits

theorem exists_resolve_shuffled :
    (∃ r, scope.resolve (σ.onFilter f) = .ok r) ↔ ∃ r, scope.resolve f = .ok r := by
  rw [exists_resolve, exists_resolve]
  exact forall_congr' fun l => imp_congr_left fits.leaves.mem_iff

variable {resolved resolved' : ResolvedFilter} (h : scope.resolve f = .ok resolved)
  (h' : scope.resolve (σ.onFilter f) = .ok resolved')

include h h'

theorem joins_alike (size : (JoinPlan.ofFilter resolved).entries.length < UInt32.size) :
    (JoinPlan.ofFilter resolved).Alike (JoinPlan.ofFilter resolved') where
  valid := JoinPlan.ofFilter_valid resolved
  valid' := JoinPlan.ofFilter_valid resolved'
  keys := by
    rw [JoinPlan.ofFilter, JoinPlan.ofFilter, JoinPlan.allocateAll_keys,
      JoinPlan.allocateAll_keys, resolve_traversals h, resolve_traversals h']
    exact eraseDups_perm ((fits.leaves.symm.filterMap _).map _)
  size := size

/-- The predicate of a shuffled filter is that of the filter with the occurrences renamed, shuffled
alike. -/
theorem lowered_shuffled {p p' : JoinPlan} (alike : p.Alike p') (serves : p.Serves resolved)
    (serves' : p'.Serves resolved') :
    Predicate.lowered p' resolved' =
      σ.onPredicate ((Predicate.lowered p resolved).rename (p.counterpart p')) := by
  have conditions : ∀ l ∈ f.leaves,
      scope.condition p' l = (scope.condition p l).rename (p.counterpart p') := by
    intro l hl
    obtain ⟨r, hr, hres⟩ := forall₂_mem_left (resolve_leaf h) hl
    obtain ⟨r', hr', hres'⟩ := forall₂_mem_left (resolve_leaf h') (fits.leaves.mem_iff.mpr hl)
    cases hres.symm.trans hres'
    rw [condition_eq p hres, condition_eq p' hres]
    exact alike.lowered_leaf (serves r hr) (serves' r hr')
  rw [lowered_eq h serves, lowered_eq h' serves', fits.assemble, Filter.rename_assemble,
    Filter.assemble_congr conditions]

end Scope

/-! ### Compiling a shuffled filter -/

/-- The plan has the joins of the other one with their occurrences renamed, and its predicate with
the parts in another order. -/
structure Plan.Renamed (ρ : Equiv.Perm Occurrence) (σ : Shuffle) (plan plan' : Plan) : Prop where
  root : plan'.root = plan.root
  fixed : ρ .root = .root
  joins : (plan.joins.map (·.rename ρ)).Perm plan'.joins
  predicate : plan'.predicate = σ.onPredicate (plan.predicate.rename ρ)
  orderBy : plan'.orderBy = plan.orderBy
  page : plan'.page = plan.page

namespace Compiler

variable {c : Compiler} {name : String} {filter orderBy : Json} {page : Option Page}

theorem exists_compile : (∃ plan, c.compile name filter orderBy page = .ok plan) ↔
    ∃ root, c.root name = .ok root ∧ (∃ resolved, c.resolve root filter = .ok resolved) ∧
      ∃ terms, c.ordering root orderBy = .ok terms := by
  constructor
  · rintro ⟨plan, h⟩
    obtain ⟨root, resolved, terms, start, hresolved, hterms, -⟩ := compile_eq_ok h
    exact ⟨root, start, ⟨resolved, hresolved⟩, terms, hterms⟩
  · rintro ⟨root, start, ⟨resolved, hresolved⟩, terms, hterms⟩
    exact ⟨_, compile_of_stages start hresolved hterms page⟩

theorem compile_terms {plan : Plan} (h : c.compile name filter orderBy page = .ok plan)
    {root : Entity} (start : c.root name = .ok root) :
    ∃ keys, OrderTerm.ofKeys c.registry root keys = .ok plan.orderBy := by
  obtain ⟨root', resolved, terms, start', -, hterms, rfl⟩ := compile_eq_ok h
  cases start.symm.trans start'
  obtain ⟨keys, -, hkeys⟩ := bind_eq_ok.mp hterms
  exact ⟨keys, hkeys⟩

/-- The predicate of a plan has the shape of the filter. -/
theorem compile_assembled {plan : Plan} (h : c.compile name filter orderBy page = .ok plan) :
    ∃ f condition, Filter.parse c.config.bounds filter = .ok f ∧
      plan.predicate = f.assemble condition := by
  obtain ⟨root, resolved, terms, -, hresolved, -, rfl⟩ := compile_eq_ok h
  obtain ⟨f, hf, hresolve⟩ := bind_eq_ok.mp hresolved
  have hscope : (c.scope root).resolve f = .ok resolved := hresolve
  exact ⟨f, _, hf, Scope.lowered_eq hscope (JoinPlan.ofFilter_serves resolved)⟩

variable {σ : Shuffle} (fits : σ.FitsNode filter)

include fits

theorem exists_resolve_shuffled (root : Entity) :
    (∃ r, c.resolve root (σ.onNode filter) = .ok r) ↔ ∃ r, c.resolve root filter = .ok r := by
  constructor
  · rintro ⟨r, h⟩
    obtain ⟨g, hg, h⟩ := bind_eq_ok.mp h
    obtain ⟨f, hf⟩ := fits.exists_parse.mp ⟨g, hg⟩
    obtain ⟨fitsFilter, hshuffled⟩ := fits.parse hf
    cases hg.symm.trans hshuffled
    obtain ⟨resolved, hresolved⟩ := (Scope.exists_resolve_shuffled fitsFilter).mp ⟨r, h⟩
    exact ⟨resolved, bind_eq_ok.mpr ⟨f, hf, hresolved⟩⟩
  · rintro ⟨r, h⟩
    obtain ⟨f, hf, h⟩ := bind_eq_ok.mp h
    obtain ⟨fitsFilter, hshuffled⟩ := fits.parse hf
    obtain ⟨resolved, hresolved⟩ := (Scope.exists_resolve_shuffled fitsFilter).mpr ⟨r, h⟩
    exact ⟨resolved, bind_eq_ok.mpr ⟨_, hshuffled, hresolved⟩⟩

/-- A filter is accepted after it was shuffled just if it is accepted before. -/
theorem exists_compile_shuffled :
    (∃ plan, c.compile name (σ.onNode filter) orderBy page = .ok plan) ↔
      ∃ plan, c.compile name filter orderBy page = .ok plan := by
  simp only [exists_compile, exists_resolve_shuffled fits]

/-- The plan of a filter that was shuffled is the plan of the filter, with the occurrences
renamed. -/
theorem compile_shuffled (consistent : c.registry.Consistent) {plan plan' : Plan}
    (h : c.compile name filter orderBy page = .ok plan)
    (h' : c.compile name (σ.onNode filter) orderBy page = .ok plan')
    (size : plan.joins.length < UInt32.size) :
    ∃ ρ : Equiv.Perm Occurrence, plan.Renamed ρ σ plan' := by
  obtain ⟨root, resolved, terms, start, hresolved, hterms, rfl⟩ := compile_eq_ok h
  obtain ⟨root', resolved', terms', start', hresolved', hterms', rfl⟩ := compile_eq_ok h'
  cases start.symm.trans start'
  cases hterms.symm.trans hterms'
  have hroot := root_mem start
  have planFits := JoinPlan.ofFilter_fits consistent hroot
    (resolve_sound consistent hroot hresolved).leaves
  have planFits' := JoinPlan.ofFilter_fits consistent hroot
    (resolve_sound consistent hroot hresolved').leaves
  obtain ⟨f, hf, hresolve⟩ := bind_eq_ok.mp hresolved
  obtain ⟨g, hg, hresolve'⟩ := bind_eq_ok.mp hresolved'
  obtain ⟨fitsFilter, hshuffled⟩ := fits.parse hf
  cases hg.symm.trans hshuffled
  have alike := Scope.joins_alike fitsFilter hresolve hresolve' size
  exact ⟨alike.occurrence, rfl, alike.counterpart_root,
    alike.joins (consistent.sound root hroot) planFits planFits',
    Scope.lowered_shuffled fitsFilter hresolve hresolve' alike
      (JoinPlan.ofFilter_serves resolved) (JoinPlan.ofFilter_serves resolved'), rfl, rfl⟩

end Compiler

end FieldSearch
