import FieldSearch.Proofs.Search.Negation
import FieldSearch.Proofs.Store.Answer
import FieldSearch.Proofs.Store.Ordering
import FieldSearch.Proofs.Store.Unknown

/-!
# Filters and their negations

No row is found by a filter and by its negation, and a row that neither finds has null in a column
that the filter compares directly. A filter all of whose leaves are definite and its negation split
the rows of the root between them. The negation of the negation finds what the filter finds.
-/

namespace FieldSearch

open Sql

namespace Store

variable {st : Store} {params : List Value}

/-! ### Rows that are not found -/

/-- Every row that is not found was tested and missed one of the conditions. -/
theorem filter_missed {conditions : List Condition} {rows found : List Frames}
    (h : st.filter params conditions rows = .ok found) {fs : Frames} (hfs : fs ∈ rows)
    (missed : (conditions.all fun c => c.truth st params fs == some true) = false) :
    ∃ c ∈ conditions, c.evalsTo st params true fs = .ok false := by
  induction rows generalizing found with
  | nil => cases hfs
  | cons first rest ih =>
    obtain ⟨b, others, hb, hothers, -⟩ := filter_cons_eq_ok.mp h
    rcases List.mem_cons.mp hfs with rfl | hfs
    · have hall := Condition.everyEvalsTo_sound (fun c _ => c.evalsTo_sound true) hb
      rw [hall, missed] at hb
      exact Condition.everyEvalsTo_missed hb
    · exact ih hothers hfs

theorem run_missed {f : Fragment} {values : List Value} (h : st.run f = .ok values) {t : Table}
    (ht : st.table? f.select.source.table = some t) {r : Row} (hr : r ∈ t.rows)
    (notTrue : f.select.condition.truth st f.params (framesOf t f.select r) ≠ some true) :
    f.select.condition.Missed st f.params (framesOf t f.select r) := by
  obtain ⟨t', rows, accepts, hrows, -⟩ := run_eq_ok.mp h
  cases ht.symm.trans accepts.table
  have hvisited : r ∈ st.visited t f.params f.select := (visited_perm st t _ _).mem_iff.mpr hr
  have missed : ((f.select.condition.arranged f.params (t.isKey f.select.source.row)).all
      fun c => c.truth st f.params (framesOf t f.select r) == some true) = false := by
    rw [Condition.arranged_true]
    exact beq_eq_false_iff_ne.mpr notTrue
  obtain ⟨c, hc, hfalse⟩ := filter_missed hrows (List.mem_map_of_mem hvisited) missed
  exact ⟨c, (Condition.arranged_perm _ _ _).mem_iff.mp hc, hfalse⟩

variable {registry : Registry} {plan : Plan} {s : Sql.Scope} {c : Condition}

theorem execute_missed (whole : plan.page = none) {keys : List Value}
    (h : st.execute registry plan = .ok keys) (hs : Scope.ofPlan registry plan = .ok s)
    (hc : condition s 1 plan.predicate = .ok c) {row : Record}
    (hrow : row ∈ st.records s.root.table)
    (notTrue : c.truth st (operandValues plan) [row.frame rootRow] ≠ some true) :
    c.Missed st (operandValues plan) [row.frame rootRow] := by
  obtain ⟨f, hf, hrun⟩ := execute_eq_ok.mp h
  obtain ⟨s', c', order, hs', hc', -, rfl⟩ := select_rendered whole hf
  cases hs.symm.trans hs'
  cases hc.symm.trans hc'
  obtain ⟨t, rows, accepts, -, -⟩ := run_eq_ok.mp hrun
  rw [records_eq accepts.table] at hrow
  obtain ⟨r, hr, rfl⟩ := List.mem_map.mp hrow
  exact run_missed hrun accepts.table hr notTrue

/-! ### Division of the rows -/

/-- The rows that a filter finds and those that its negation finds. A row that is neither has a leaf
of the filter that is unknown on it. -/
structure Divided (rows : List Record) (key : String) (filter : ResolvedFilter)
    (found lost : Record → Bool) (keys others : List Value) : Prop where
  keys : keys.Perm ((rows.filter found).map (·.value key))
  others : others.Perm ((rows.filter lost).map (·.value key))
  apart : ∀ row ∈ rows, found row = true → lost row = false
  unknown : ∀ row ∈ rows, found row = false → lost row = false →
    ∃ l ∈ filter.leaves, l.UnknownOn row

namespace Divided

variable {rows : List Record} {key : String} {filter : ResolvedFilter} {found lost : Record → Bool}
  {keys others : List Value}

/-- Definite leaves leave no row out. -/
theorem partition (divided : Divided rows key filter found lost keys others)
    (definite : ∀ l ∈ filter.leaves, l.isDefinite = true) :
    (keys ++ others).Perm (rows.map (·.value key)) := by
  have hlost : ∀ row ∈ rows, lost row = !found row := by
    intro row hrow
    cases hfound : found row with
    | true => exact divided.apart row hrow hfound
    | false =>
      by_contra hne
      have hnone : lost row = false := by simpa using hne
      obtain ⟨l, hl, unknown⟩ := divided.unknown row hrow hfound hnone
      cases unknown with
      | direct indefinite _ => exact Bool.false_ne_true (indefinite.symm.trans (definite _ hl))
  have hothers := divided.others
  rw [List.filter_congr hlost] at hothers
  have hall := divided.keys.append hothers
  rw [← List.map_append] at hall
  exact hall.trans ((List.filter_append_perm found rows).map _)

/-- No key is in both results if the rows have distinct keys. -/
theorem disjoint (divided : Divided rows key filter found lost keys others)
    (distinct : (rows.map (·.value key)).Nodup) : keys.Disjoint others := by
  intro v hv hv'
  obtain ⟨row, hrow, rfl⟩ := List.mem_map.mp (divided.keys.mem_iff.mp hv)
  obtain ⟨row', hrow', hsame⟩ := List.mem_map.mp (divided.others.mem_iff.mp hv')
  obtain ⟨hmem, hfound⟩ := List.mem_filter.mp hrow
  obtain ⟨hmem', hlost⟩ := List.mem_filter.mp hrow'
  obtain rfl := List.inj_on_of_nodup_map distinct hmem' hmem hsame
  rw [divided.apart row' hmem' hfound] at hlost
  cases hlost

end Divided

/-- The results of a plan and of its negation divide the rows of the root. -/
theorem execute_divided {root : Entity} (hroot : registry.entity? plan.root = some root)
    (whole : plan.page = none) {p : JoinPlan} {resolved : ResolvedFilter}
    (serves : p.Serves resolved)
    (hpredicate : plan.predicate = .lowered p resolved) {keys others : List Value}
    (h : st.execute registry plan = .ok keys)
    (h' : st.execute registry plan.negated = .ok others) :
    ∃ found lost, Divided (st.records root.table) root.primaryKey resolved found lost keys
      others := by
  have whole' : plan.negated.page = none := whole
  obtain ⟨s, c, hs, hc, hkeys⟩ := execute_rendered whole h
  obtain ⟨s', c', hs', hc', hothers⟩ := execute_rendered whole' h'
  cases hs.symm.trans hs'
  cases hroot.symm.trans (Scope.ofPlan_root hs)
  obtain ⟨inner, hinner, hnot⟩ := bind_eq_ok.mp hc'
  cases hc.symm.trans hinner
  cases hnot
  refine ⟨_, _, hkeys, hothers, ?apart, ?unknown⟩
  case apart =>
    intro row _ hfound
    rw [beq_iff_eq] at hfound
    change (Truth.not (c.truth st (operandValues plan) [row.frame rootRow]) == some true) = false
    rw [hfound]
    rfl
  case unknown =>
    intro row hrow hfound hlost
    have missed := execute_missed whole h hs hc hrow (beq_eq_false_iff_ne.mp hfound)
    have missed' := execute_missed whole' h' hs' hc' hrow (beq_eq_false_iff_ne.mp hlost)
    have notFalse : c.evalsTo st (operandValues plan) false [row.frame rootRow] = .ok false :=
      missed'.evalsTo rfl
    have supplies := supplies_operands plan.predicate.operands []
    rw [List.append_nil] at supplies
    have hrendered := hc
    rw [hpredicate] at hrendered
    refine filter_neither serves hrendered ?_ missed notFalse
    rw [← hpredicate]
    exact supplies

/-- The negation of the negation of a plan finds the rows that the plan finds. -/
theorem execute_twice_negated (whole : plan.page = none) {keys again : List Value}
    (h : st.execute registry plan = .ok keys)
    (h' : st.execute registry plan.negated.negated = .ok again) : again.Perm keys := by
  have whole' : plan.negated.negated.page = none := whole
  obtain ⟨s, c, hs, hc, hkeys⟩ := execute_rendered whole h
  obtain ⟨s', c', hs', hc', hagain⟩ := execute_rendered whole' h'
  cases hs.symm.trans hs'
  obtain ⟨inner, hinner, hnot⟩ := bind_eq_ok.mp hc'
  cases hnot
  obtain ⟨innermost, hinnermost, hnot⟩ := bind_eq_ok.mp hinner
  cases hnot
  cases hc.symm.trans hinnermost
  have htruth : ∀ row : Record,
      (Condition.not (.not c)).truth st (operandValues plan.negated.negated) [row.frame rootRow] =
        c.truth st (operandValues plan) [row.frame rootRow] := by
    intro row
    rw [Condition.truth, Condition.truth, Truth.not_not]
    rfl
  simp only [htruth] at hagain
  exact hagain.trans hkeys.symm

namespace Bookcase

def thickFilter : Json :=
  .array [.string "Book", .string "pages", .string ">", .int 50]

/-- Books of more than 50 pages. -/
def thick : Plan where
  root := "Book"
  predicate := .compare ⟨.root, "pages"⟩ .gt (.integer 50)
  joins := []
  orderBy := [⟨⟨.root, "id"⟩, .asc, false⟩]
  page := none

theorem thick_compiled : (Compiler.mk Sql.Example.schema Sql.Example.config).compile "Book"
    thickFilter .null none = .ok thick := by rfl

theorem thick_found : library.execute Sql.Example.schema thick = .ok [number 1] := by
  decide

/-- The number of pages of the other book is not known. -/
theorem thick_lost : library.execute Sql.Example.schema thick.negated = .ok [] := by
  decide

theorem thick_again : library.execute Sql.Example.schema thick.negated.negated =
    .ok [number 1] := by
  decide

def taggedFilter : Json :=
  .array [.string "and", .array [
    .array [.string "Book", .string "tags", .string "rank", .string "=", .int 2],
    .array [.string "Book", .string "author", .string "=", .null]]]

/-- Books with a tag of rank 2 and without an author. -/
def taggedAnonymous : Plan where
  root := "Book"
  predicate := .and [.exist ⟨1⟩ (.compare ⟨⟨1⟩, "rank"⟩ .eq (.integer 2)), .related ⟨2⟩ false]
  joins := [⟨⟨1⟩, "Book", "tags", "Tag", .toMany⟩, ⟨⟨2⟩, "Book", "author", "Author", .toOne⟩]
  orderBy := [⟨⟨.root, "id"⟩, .asc, false⟩]
  page := none

theorem taggedAnonymous_compiled : (Compiler.mk Sql.Example.schema Sql.Example.config).compile
    "Book" taggedFilter .null none = .ok taggedAnonymous := (Compiler.compile_eq ..).trans rfl

theorem taggedFilter_definite {resolved : ResolvedFilter}
    (h : (Compiler.mk Sql.Example.schema Sql.Example.config).resolve Sql.Example.book taggedFilter =
      .ok resolved) : ∀ l ∈ resolved.leaves, l.isDefinite = true := by
  cases h
  decide

end Bookcase

/-- The negation of an accepted filter is accepted unless it is nested too deep. Wherever both can
be executed they divide the rows of the root: none is found by both, and one that is found by
neither has null in a column that the filter compares directly. They leave no row out if each leaf
takes a relation, asks for null, or is about a list that is empty or has null in it. The negation of
the negation finds what the filter finds. -/
theorem negation_divides_rows {config : Config} {name : String} {filter orderBy : Json}
    (compiled : (Compiler.mk registry config).compile name filter orderBy none = .ok plan) :
    ∃ root resolved, (Compiler.mk registry config).root name = .ok root ∧
      (Compiler.mk registry config).resolve root filter = .ok resolved ∧
      ((measure filter).depth + 1 ≤ config.maxDepth → ∃ opposite,
        (Compiler.mk registry config).compile name (.array [.string "not", filter]) orderBy none =
          .ok opposite ∧
        ∀ st keys others, Store.execute st registry plan = .ok keys →
          Store.execute st registry opposite = .ok others →
          (∃ found lost, Divided (st.records root.table) root.primaryKey resolved found lost keys
            others) ∧
          (((st.records root.table).map (·.value root.primaryKey)).Nodup → keys.Disjoint others) ∧
          ((∀ l ∈ resolved.leaves, l.isDefinite = true) →
            (keys ++ others).Perm ((st.records root.table).map (·.value root.primaryKey)))) ∧
      ((measure filter).depth + 2 ≤ config.maxDepth → ∃ twice,
        (Compiler.mk registry config).compile name
          (.array [.string "not", .array [.string "not", filter]]) orderBy none = .ok twice ∧
        ∀ st keys again, Store.execute st registry plan = .ok keys →
          Store.execute st registry twice = .ok again → again.Perm keys) := by
  obtain ⟨root, resolved, terms, start, hresolved, -, hplan⟩ := Compiler.compile_eq_ok compiled
  have hroot : registry.entity? plan.root = some root := Compiler.compile_start compiled start
  have whole : plan.page = none := by rw [hplan]
  have serves := JoinPlan.ofFilter_serves resolved
  have hpredicate : plan.predicate = .lowered (JoinPlan.ofFilter resolved) resolved := by
    rw [hplan]
  refine ⟨root, resolved, start, hresolved, fun deep => ?negation, fun deep => ?twice⟩
  case negation =>
    refine ⟨plan.negated, Compiler.compile_notNode compiled deep, ?_⟩
    intro st keys others h h'
    obtain ⟨found, lost, divided⟩ := execute_divided hroot whole serves hpredicate h h'
    exact ⟨⟨found, lost, divided⟩, divided.disjoint, divided.partition⟩
  case twice =>
    have once := Compiler.compile_notNode compiled (Nat.le_of_succ_le deep)
    have deep' : (measure (Filter.notNode filter)).depth + 1 ≤ config.maxDepth := by
      rw [Filter.measure_notNode]
      exact deep
    refine ⟨plan.negated.negated, Compiler.compile_notNode once deep', ?_⟩
    intro st keys again h h'
    exact execute_twice_negated whole h h'

open Bookcase in
/-- A row on which a column is null is found neither by a direct comparison nor by its negation.
Leaves over relations leave no row out. -/
theorem library_divided :
    (∃ resolved, (Compiler.mk Sql.Example.schema Sql.Example.config).resolve Sql.Example.book
        thickFilter = .ok resolved ∧
      library.execute Sql.Example.schema thick = .ok [number 1] ∧
      library.execute Sql.Example.schema thick.negated = .ok [] ∧
      (∃ found lost, Divided (library.records "book") "id" resolved found lost [number 1] []) ∧
      ∃ again, library.execute Sql.Example.schema thick.negated.negated = .ok again ∧
        again.Perm [number 1]) ∧
    ∃ resolved, (Compiler.mk Sql.Example.schema Sql.Example.config).resolve Sql.Example.book
        taggedFilter = .ok resolved ∧
      (∀ l ∈ resolved.leaves, l.isDefinite = true) ∧
      library.execute Sql.Example.schema taggedAnonymous = .ok [number 1] ∧
      library.execute Sql.Example.schema taggedAnonymous.negated = .ok [number 2] ∧
      ([number 1] ++ [number 2]).Perm ((library.records "book").map (·.value "id")) ∧
      [number 1].Disjoint [number 2] := by
  constructor
  · obtain ⟨root, resolved, start, hresolved, once, twice⟩ := negation_divides_rows thick_compiled
    cases start.symm.trans book_start
    have honce := Compiler.compile_notNode thick_compiled (by decide)
    have htwice := Compiler.compile_notNode honce (by decide)
    obtain ⟨opposite, hopposite, divide⟩ := once (by decide)
    cases hopposite.symm.trans honce
    obtain ⟨double, hdouble, same⟩ := twice (by decide)
    cases hdouble.symm.trans htwice
    have divided := (divide library _ _ thick_found thick_lost).1
    exact ⟨resolved, hresolved, thick_found, thick_lost, divided, _, thick_again,
      same library _ _ thick_found thick_again⟩
  · obtain ⟨root, resolved, start, hresolved, once, -⟩ :=
      negation_divides_rows taggedAnonymous_compiled
    cases start.symm.trans book_start
    have honce := Compiler.compile_notNode taggedAnonymous_compiled (by decide)
    obtain ⟨opposite, hopposite, divide⟩ := once (by decide)
    cases hopposite.symm.trans honce
    have found : library.execute Sql.Example.schema taggedAnonymous = .ok [number 1] := by
      decide +kernel
    have lost : library.execute Sql.Example.schema taggedAnonymous.negated = .ok [number 2] := by
      decide +kernel
    obtain ⟨-, disjoint, partition⟩ := divide library _ _ found lost
    have definite := taggedFilter_definite hresolved
    exact ⟨resolved, hresolved, definite, found, lost, partition definite, disjoint (by decide)⟩

end Store

end FieldSearch
