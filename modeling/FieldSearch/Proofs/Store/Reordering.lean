import FieldSearch.Proofs.Search.Renaming
import FieldSearch.Proofs.Store.Insertion

/-!
# Filters whose parts stand in another order

Neither the numbers of the occurrences nor the order of the parts matter to the truth of a
predicate, so filters that differ only in the order of their parts find the same rows. The order in
which these are visited may differ, and with it the order of rows that the keys of the search leave
equal, which takes keys that are strings and differ only by case.
-/

namespace FieldSearch

open Sql Std

/-! ### The truth of a shuffled predicate -/

namespace Sql.Truth

instance : LeftCommutative and where
  left_comm a b c := by
    rcases a with _ | _ | _ <;> rcases b with _ | _ | _ <;> rcases c with _ | _ | _ <;> rfl

instance : LeftCommutative or where
  left_comm a b c := by
    rcases a with _ | _ | _ <;> rcases b with _ | _ | _ <;> rcases c with _ | _ | _ <;> rfl

theorem all_perm {ts us : List Truth} (perm : ts.Perm us) : all ts = all us := perm.foldr_eq _

theorem any_perm {ts us : List Truth} (perm : ts.Perm us) : any ts = any us := perm.foldr_eq _

end Sql.Truth

section Truth

variable {binding? binding?' : Occurrence → Option Binding} {s : Store} {rows rows' : Rows}

/-- The order of the parts does not matter to the truth of a filter. -/
theorem Shuffle.FitsFilter.truth {σ : Shuffle} {f : Filter} (fits : σ.FitsFilter f)
    (condition : Leaf → Predicate) :
    ((σ.onFilter f).assemble condition).truth binding? s rows =
      (f.assemble condition).truth binding? s rows := by
  induction fits with
  | keep f => rw [onFilter_keep]
  | not _ ih =>
    rw [onFilter, Filter.assemble, Predicate.truth, ih, Filter.assemble, Predicate.truth]
  | and perm hlength _ ih =>
    simp only [onFilter, Filter.assemble, Filter.assembleAll_eq, Predicate.truth,
      Predicate.truths_eq, List.map_map]
    exact Truth.all_perm (onFilters_map perm hlength ih)
  | or perm hlength _ ih =>
    simp only [onFilter, Filter.assemble, Filter.assembleAll_eq, Predicate.truth,
      Predicate.truths_eq, List.map_map]
    exact Truth.any_perm (onFilters_map perm hlength ih)

/-- The numbers of the occurrences do not matter to the truth of a predicate. -/
theorem Predicate.truth_rename {ρ : Equiv.Perm Occurrence} (fixed : ρ .root = .root)
    (bindings : ∀ o, binding?' (ρ o) = binding? o) (same : ∀ o, rows' (ρ o) = rows o)
    (p : Predicate) : (p.rename ρ).truth binding?' s rows' = p.truth binding? s rows := by
  induction p using Predicate.induct generalizing rows rows' with
  | compare c comparison v => simp only [rename, truth, Rows.column, Column.rename, same]
  | isIn c vs => simp only [rename, truth, Rows.column, Column.rename, same]
  | isNull c => simp only [rename, truth, Rows.column, Column.rename, same]
  | isNotNull c => simp only [rename, truth, Rows.column, Column.rename, same]
  | exist o inner ih =>
    have hroot : rows' .root = rows .root := by rw [← same .root, fixed]
    have inside : ∀ r, (inner.rename ρ).truth binding?' s (rows'.bind (ρ o) r) =
        inner.truth binding? s (rows.bind o r) := by
      intro r
      refine ih fun other => ?_
      simp only [Rows.bind, ρ.injective.eq_iff, same]
    simp only [rename, truth, bindings, hroot, inside]
  | related o present =>
    have hroot : rows' .root = rows .root := by rw [← same .root, fixed]
    simp only [rename, truth, bindings, hroot]
  | not inner ih => rw [rename, truth, ih same, truth]
  | and parts ih =>
    simp only [rename, renameAll_eq, truth, truths_eq, List.map_map]
    exact congrArg Truth.all (List.map_congr_left fun part hpart => ih part hpart same)
  | or parts ih =>
    simp only [rename, renameAll_eq, truth, truths_eq, List.map_map]
    exact congrArg Truth.any (List.map_congr_left fun part hpart => ih part hpart same)

end Truth

namespace Plan.Renamed

variable {ρ : Equiv.Perm Occurrence} {σ : Shuffle} {plan plan' : Plan}

theorem find_join (renamed : plan.Renamed ρ σ plan')
    (distinct : (plan.joins.map (·.occurrence)).Nodup) (o : Occurrence) :
    plan'.joins.find? (·.occurrence == ρ o) =
      (plan.joins.find? (·.occurrence == o)).map (·.rename ρ) := by
  have hmem : ∀ e ∈ plan'.joins, ∃ e' ∈ plan.joins, e'.rename ρ = e := fun e he =>
    List.mem_map.mp (renamed.joins.mem_iff.mpr he)
  cases hfind : plan.joins.find? (·.occurrence == o) with
  | none =>
    rw [List.find?_eq_none] at hfind
    rw [Option.map_none, List.find?_eq_none]
    intro e he ho
    obtain ⟨e', he', rfl⟩ := hmem e he
    exact hfind e' he' (by simpa [JoinEntry.rename] using ho)
  | some e =>
    have distinct' : (plan'.joins.map (·.occurrence)).Nodup := by
      rw [← (renamed.joins.map (·.occurrence)).nodup_iff, List.map_map]
      have h := distinct.map ρ.injective
      rwa [List.map_map] at h
    have ho : e.occurrence = o := by simpa using List.find?_some hfind
    have he : e.rename ρ ∈ plan'.joins :=
      renamed.joins.mem_iff.mp (List.mem_map_of_mem (List.mem_of_find?_eq_some hfind))
    subst ho
    exact find?_name_of_mem (·.occurrence) distinct' he

/-- A renamed occurrence stands for what the occurrence stood for. -/
theorem binding? (renamed : plan.Renamed ρ σ plan')
    (distinct : (plan.joins.map (·.occurrence)).Nodup) (registry : Registry) (o : Occurrence) :
    plan'.binding? registry (ρ o) = plan.binding? registry o := by
  rw [Plan.binding?, Plan.binding?, renamed.find_join distinct]
  cases plan.joins.find? (·.occurrence == o) <;> rfl

/-- The predicates of both plans have the same truth on every row. -/
theorem truth (renamed : plan.Renamed ρ σ plan')
    (distinct : (plan.joins.map (·.occurrence)).Nodup) {f : Filter} (fits : σ.FitsFilter f)
    {condition : Leaf → Predicate} (assembled : plan.predicate = f.assemble condition)
    (registry : Registry) (s : Store) (row : Store.Record) :
    plan'.truth registry s row = plan.truth registry s row := by
  have hrenamed : (plan.predicate.rename ρ).truth (plan'.binding? registry) s (fun _ => row) =
      plan.predicate.truth (plan.binding? registry) s (fun _ => row) :=
    Predicate.truth_rename renamed.fixed (renamed.binding? distinct registry) (fun _ => rfl) _
  rw [assembled, Filter.rename_assemble] at hrenamed
  rw [Plan.truth, Plan.truth, renamed.predicate, assembled, Filter.rename_assemble,
    ← fits.assemble, fits.truth, hrenamed]

end Plan.Renamed

namespace Store

variable {st : Store} {registry : Registry} {root : Entity} {plan plan' : Plan}
  {keys keys' : List Value}

/-- Answers that stem from the same rows of the root. Each has them in order by the terms, and the
orders differ only by rows that the terms leave equal. -/
def SameButTies (st : Store) (root : Entity) (plan : Plan) (keys keys' : List Value) : Prop :=
  ∃ rows rows' : List Record, rows'.Perm rows ∧ (∀ row ∈ rows, row ∈ st.records root.table) ∧
    List.Forall₂ (Ties plan.orderBy) rows rows' ∧
    keys = Page.returned plan.page (rows.map (·.value root.primaryKey)) ∧
    keys' = Page.returned plan.page (rows'.map (·.value root.primaryKey))

/-- Plans with the same truth on every row and the same terms answer alike. -/
theorem execute_alike (wf : plan.WellFormed registry root) (wf' : plan'.WellFormed registry root)
    (order : plan'.orderBy = plan.orderBy) (page : plan'.page = plan.page)
    (truth : ∀ row, plan'.truth registry st row = plan.truth registry st row)
    (h : st.execute registry plan = .ok keys) (h' : st.execute registry plan' = .ok keys') :
    (∃ n, st.count registry plan = .ok n ∧ st.count registry plan' = .ok n) ∧
      SameButTies st root plan keys keys' := by
  obtain ⟨s, c, rows, hs, hc, hrows, hkeys, hcount⟩ :=
    execute_sorted (fun t ht => (wf.order t ht).1) h
  obtain ⟨s', c', rows', hs', hc', hrows', hkeys', hcount'⟩ :=
    execute_sorted (fun t ht => (wf'.order t ht).1) h'
  obtain ⟨_, hfits, fits⟩ := Scope.ofPlan_eq_ok wf
  cases hs.symm.trans hfits
  obtain ⟨_, hfits', fits'⟩ := Scope.ofPlan_eq_ok wf'
  cases hs'.symm.trans hfits'
  simp only [rendered_truth wf hs hc, fits.start] at hrows hkeys
  simp only [rendered_truth wf' hs' hc', fits'.start, truth, order, page] at hrows' hkeys'
  have perm : rows'.Perm rows := hrows'.trans hrows.symm
  refine ⟨⟨_, hcount, perm.length_eq ▸ hcount'⟩, sortRows plan.orderBy rows,
    sortRows plan.orderBy rows', ?_, ?_, sortRows_tied perm.symm, hkeys, hkeys'⟩
  · exact ((sortRows_perm _ rows').trans perm).trans (sortRows_perm _ rows).symm
  · intro row hrow
    rw [(sortRows_perm _ rows).mem_iff, hrows.mem_iff] at hrow
    exact List.mem_of_mem_filter hrow

/-- Rows that are left equal have keys that compare as equal, so the answers are the same where this
makes them one key. -/
theorem SameButTies.eq (same : SameButTies st root plan keys keys') {key : Attribute}
    (ties : ∀ a b, Ties plan.orderBy a b →
      Value.cmpFor key.type.isText (a.value root.primaryKey) (b.value root.primaryKey) = .eq)
    (apart : ∀ a ∈ st.records root.table, ∀ b ∈ st.records root.table,
      Value.cmpFor key.type.isText (a.value root.primaryKey) (b.value root.primaryKey) = .eq →
        a.value root.primaryKey = b.value root.primaryKey) : keys' = keys := by
  obtain ⟨rows, rows', perm, hmem, tied, rfl, rfl⟩ := same
  have hvalues : rows.map (·.value root.primaryKey) = rows'.map (·.value root.primaryKey) := by
    rw [← List.forall₂_eq_eq_eq, List.forall₂_map_left_iff, List.forall₂_map_right_iff,
      List.forall₂_iff_zip]
    refine ⟨tied.length_eq, fun hpair => ?_⟩
    obtain ⟨ha, hb⟩ := List.of_mem_zip hpair
    have hties := ties _ _ (List.forall₂_zip tied hpair)
    exact apart _ (hmem _ ha) _ (hmem _ (perm.mem_iff.mp hb)) hties
  rw [hvalues]

/-- Filters that differ only in the order of their parts are both accepted or neither. Their plans
differ by a renaming of the occurrences and by this order. Where both can be executed the count is
the same, and so is the answer but for rows that the ordering leaves equal: those are in either
order. No rows with different keys are left equal unless these are strings that differ only by
case. -/
theorem shuffle_renames_occurrences {entities : List Entity} {aliases : List EntityAlias}
    (built : Registry.build entities aliases = .ok registry) {config : Config} {name : String}
    {filter orderBy : Json} {page : Option Page} {σ : Shuffle} (fits : σ.FitsNode filter) :
    ((∃ plan, (Compiler.mk registry config).compile name filter orderBy page = .ok plan) ↔
      ∃ plan, (Compiler.mk registry config).compile name (σ.onNode filter) orderBy page =
        .ok plan) ∧
    ∀ plan plan', (Compiler.mk registry config).compile name filter orderBy page = .ok plan →
      (Compiler.mk registry config).compile name (σ.onNode filter) orderBy page = .ok plan' →
      plan.joins.length < UInt32.size →
      (∃ ρ : Equiv.Perm Occurrence, plan.Renamed ρ σ plan') ∧
      ∃ root key, (Compiler.mk registry config).root name = .ok root ∧
        root.primaryKeyAttribute? = some key ∧
        ∀ st keys keys', Store.execute st registry plan = .ok keys →
          Store.execute st registry plan' = .ok keys' →
          (∃ n, Store.count st registry plan = .ok n ∧ Store.count st registry plan' = .ok n) ∧
          SameButTies st root plan keys keys' ∧
          ((∀ a ∈ st.records root.table, ∀ b ∈ st.records root.table,
            Value.cmpFor key.type.isText (a.value root.primaryKey) (b.value root.primaryKey) =
              .eq → a.value root.primaryKey = b.value root.primaryKey) → keys' = keys) := by
  have consistent := Registry.build_consistent built
  refine ⟨(Compiler.exists_compile_shuffled fits).symm, ?_⟩
  intro plan plan' h h' size
  obtain ⟨ρ, renamed⟩ := Compiler.compile_shuffled fits consistent h h' size
  refine ⟨⟨ρ, renamed⟩, ?_⟩
  have size' : plan'.joins.length < UInt32.size := by
    rwa [← renamed.joins.length_eq, List.length_map]
  obtain ⟨root, resolved, compiles⟩ := Compiler.compile_compiles consistent h size
  obtain ⟨root', resolved', compiles'⟩ := Compiler.compile_compiles consistent h' size'
  cases compiles.start.symm.trans compiles'.start
  have sound := consistent.sound root (Compiler.root_mem compiles.start)
  obtain ⟨key, hkey⟩ := Option.isSome_iff_exists.mp sound.key
  obtain ⟨f, condition, hparse, assembled⟩ := Compiler.compile_assembled h
  obtain ⟨sorts, hsorts⟩ := Compiler.compile_terms h compiles.start
  refine ⟨root, key, compiles.start, hkey, ?_⟩
  intro st keys keys' hkeys hkeys'
  have within := (fits.parse hparse).1
  have truth := renamed.truth compiles.wellFormed.distinct within assembled registry st
  obtain ⟨counted, same⟩ := execute_alike compiles.wellFormed compiles'.wellFormed renamed.orderBy
    renamed.page truth hkeys hkeys'
  exact ⟨counted, same, same.eq fun a b => ties_keys sound hkey hsorts⟩

namespace Bookcase

/-- Books with a tag of rank 1, or with one of rank 2 and an author. -/
def tagged : Json :=
  .array [.string "or", .array [
    .array [.string "Book", .string "tags", .string "rank", .string "=", .int 1],
    .array [.string "and", .array [
      .array [.string "Book", .string "tags", .string "rank", .string "=", .int 2],
      .array [.string "Book", .string "author", .string "!=", .null]]]]]

def taggedPlan : Plan where
  root := "Book"
  predicate := .or [.exist ⟨1⟩ (.compare ⟨⟨1⟩, "rank"⟩ .eq (.integer 1)),
    .and [.exist ⟨1⟩ (.compare ⟨⟨1⟩, "rank"⟩ .eq (.integer 2)), .related ⟨2⟩ true]]
  joins := [⟨⟨1⟩, "Book", "tags", "Tag", .toMany⟩, ⟨⟨2⟩, "Book", "author", "Author", .toOne⟩]
  orderBy := [⟨⟨.root, "id"⟩, .asc, false⟩]
  page := none

theorem tagged_compiled : (Compiler.mk Sql.Example.schema Sql.Example.config).compile "Book" tagged
    .null none = .ok taggedPlan := (Compiler.compile_eq ..).trans rfl

/-- The alternatives the other way round, and the conditions of the second one too. -/
def turned : Shuffle := .group [1, 0] [.keep, .group [1, 0] [.keep, .keep]]

theorem turned_fits : turned.FitsNode tagged := by
  refine .group (.inr rfl) (by decide) rfl fun p hp => ?_
  rcases List.mem_pair.mp hp with rfl | rfl
  · exact .keep _
  · refine .group (.inl rfl) (by decide) rfl fun p hp => ?_
    rcases List.mem_pair.mp hp with rfl | rfl <;> exact .keep _

/-- The author is met before the tags. -/
def turnedPlan : Plan :=
  { taggedPlan with
    predicate := .or [
      .and [.related ⟨1⟩ true, .exist ⟨2⟩ (.compare ⟨⟨2⟩, "rank"⟩ .eq (.integer 2))],
      .exist ⟨2⟩ (.compare ⟨⟨2⟩, "rank"⟩ .eq (.integer 1))]
    joins := [⟨⟨1⟩, "Book", "author", "Author", .toOne⟩, ⟨⟨2⟩, "Book", "tags", "Tag", .toMany⟩] }

theorem turned_compiled : (Compiler.mk Sql.Example.schema Sql.Example.config).compile "Book"
    (turned.onNode tagged) .null none = .ok turnedPlan := (Compiler.compile_eq ..).trans rfl

/-- The word "a", and the word "A" if it is of rank 1. -/
def eitherCase : Json :=
  .array [.string "or", .array [
    .array [.string "Word", .string "text", .string "=", .string "a"],
    .array [.string "and", .array [
      .array [.string "Word", .string "text", .string "=", .string "A"],
      .array [.string "Word", .string "rank", .string "=", .int 1]]]]]

def eitherPlan : Plan where
  root := "Word"
  predicate := .or [.compare ⟨.root, "text"⟩ .eq (.string "a"),
    .and [.compare ⟨.root, "text"⟩ .eq (.string "A"), .compare ⟨.root, "rank"⟩ .eq (.integer 1)]]
  joins := []
  orderBy := [⟨⟨.root, "text"⟩, .asc, true⟩]
  page := none

def swapped : Shuffle := .group [1, 0] [.keep, .keep]

theorem swapped_fits : swapped.FitsNode eitherCase := by
  refine .group (.inr rfl) (by decide) rfl fun p hp => ?_
  rcases List.mem_pair.mp hp with rfl | rfl <;> exact .keep _

end Bookcase

open Store.Bookcase in
theorem tags_either_way :
    (∃ ρ : Equiv.Perm Occurrence, taggedPlan.Renamed ρ turned turnedPlan) ∧
      (∃ n, library.count Sql.Example.schema taggedPlan = .ok n ∧
        library.count Sql.Example.schema turnedPlan = .ok n) ∧
      ∃ keys keys', library.execute Sql.Example.schema taggedPlan = .ok keys ∧
        library.execute Sql.Example.schema turnedPlan = .ok keys' ∧
        SameButTies library Sql.Example.book taggedPlan keys keys' ∧ keys' = keys := by
  have consistent := Registry.build_consistent Sql.Example.schema_built
  obtain ⟨_, wf⟩ := Compiler.compile_wellFormed consistent tagged_compiled (by decide)
  obtain ⟨_, wf'⟩ := Compiler.compile_wellFormed consistent turned_compiled (by decide)
  obtain ⟨keys, h, -⟩ := library_hosts.execute_rows consistent wf rfl
  obtain ⟨keys', h', -⟩ := library_hosts.execute_rows consistent wf' rfl
  obtain ⟨-, both⟩ := shuffle_renames_occurrences Sql.Example.schema_built turned_fits
  obtain ⟨renamed, root, key, start, hkey, answers⟩ :=
    both taggedPlan turnedPlan tagged_compiled turned_compiled (by decide)
  cases start
  cases hkey
  obtain ⟨counted, same, apart⟩ := answers library keys keys' h h'
  exact ⟨renamed, counted, keys, keys', h, h', same, apart (by decide)⟩

open Store.Bookcase in
/-- Words that differ by case are answered in the order in which the filter mentions them. -/
theorem words_answered_as_mentioned :
    Registry.build [word] [] = .ok dictionary ∧ swapped.FitsNode eitherCase ∧
      compiler.compile "Word" eitherCase .null none = .ok eitherPlan ∧
      compiler.compile "Word" (swapped.onNode eitherCase) .null none =
        .ok { eitherPlan with predicate := swapped.onPredicate eitherPlan.predicate } ∧
      (words ["a", "A"]).execute dictionary eitherPlan = .ok [.text "a", .text "A"] ∧
      (words ["a", "A"]).execute dictionary
        { eitherPlan with predicate := swapped.onPredicate eitherPlan.predicate } =
          .ok [.text "A", .text "a"] :=
  ⟨by rfl, swapped_fits, by rfl, by rfl, by decide +kernel, by decide +kernel⟩

end Store

end FieldSearch
