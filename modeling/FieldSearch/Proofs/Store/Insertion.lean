import FieldSearch.Proofs.Store.Complement
import FieldSearch.Proofs.Store.Paging
import FieldSearch.Proofs.Store.Ranking
import FieldSearch.Proofs.Store.SameRows

/-!
# Rows that were inserted in another order

A search answers with the rows that are found, put in order by the keys of the search and then by
the primary key. Unless that is a string, no two rows are left equal, so stores with the same rows
give the same answer.
-/

namespace FieldSearch

open Sql

namespace Store

variable {st st' : Store} {registry : Registry} {plan : Plan}

/-! ### Sorted answers -/

/-- Terms on the root are rendered to the keys of the statement. -/
theorem orderTerms_rendered {s : Sql.Scope} {terms : List OrderTerm} {order : List OrderBy}
    (onRoot : ∀ t ∈ terms, t.column.occurrence = .root)
    (h : terms.mapM s.orderTerm = .ok order) : order = orderKeys terms := by
  have each := mapM_eq_ok.mp h
  clear h
  induction each with
  | nil => rfl
  | @cons t o rest others ht _ ih =>
    rw [List.forall_mem_cons] at onRoot
    obtain ⟨name, hname, ht⟩ := bind_eq_ok.mp ht
    cases ht
    rw [Scope.column_eq hname, onRoot.1, ih onRoot.2]
    rfl

/-- What a statement on the root finds are the records on which its condition is true. -/
theorem find_records {t : Table} {f : Fragment} {found : List Frames}
    (ht : st.table? f.select.source.table = some t) (hrow : f.select.source.row = rootRow)
    (h : st.find t f = .ok found) :
    ∃ rows : List Record, found = rows.map (fun row => [row.frame rootRow]) ∧
      rows.Perm ((st.records f.select.source.table).filter fun row =>
        f.select.condition.truth st f.params [row.frame rootRow] == some true) := by
  have hframes : framesOf t f.select =
      fun r => [Record.frame ⟨t.definition, r.cells⟩ rootRow] := by
    funext r
    rw [framesOf, hrow]
    rfl
  let visited : List Record := (st.visited t f.params f.select).map fun r => ⟨t.definition, r.cells⟩
  refine ⟨visited.filter fun row =>
    f.select.condition.truth st f.params [row.frame rootRow] == some true, ?_, ?_⟩
  · rw [find_sound h, hframes, List.filter_map, List.filter_map, List.map_map]
    rfl
  · rw [records_eq ht]
    exact ((visited_perm st t f.params f.select).map _).filter _

/-- The records that are found are put in order by the terms. -/
theorem result_sorted {f : Fragment} {key : String} {terms : List OrderTerm}
    (whole : f.Whole ⟨rootRow, key⟩) (order : f.select.order = orderKeys terms)
    (rows : List Record) :
    result f.params f.select (rows.map fun row => [row.frame rootRow]) =
      (sortRows terms rows).map (·.value key) := by
  simp only [result, whole.output, whole.window, order, Option.elim_none, sortBy_map, List.map_map,
    Function.comp_def, Record.value_frame]
  rfl

/-- A search finds the rows of the root on which the condition of the plan is true, and answers with
their keys in order, or with those on the page. -/
theorem execute_sorted (onRoot : ∀ t ∈ plan.orderBy, t.column.occurrence = .root)
    {keys : List Value} (h : st.execute registry plan = .ok keys) :
    ∃ s c rows, Scope.ofPlan registry plan = .ok s ∧ condition s 1 plan.predicate = .ok c ∧
      rows.Perm ((st.records s.root.table).filter fun row =>
        c.truth st (operandValues plan) [row.frame rootRow] == some true) ∧
      keys = Page.returned plan.page
        ((sortRows plan.orderBy rows).map (·.value s.root.primaryKey)) ∧
      st.count registry plan = .ok (min rows.length largestWord) := by
  obtain ⟨g, hg, hrun⟩ := execute_eq_ok.mp h
  obtain ⟨f, hf, rfl⟩ := select_unpaged hg
  obtain ⟨root, hroot, hsource, isWhole, -, hcount⟩ := select_whole hf
  obtain ⟨s, c, order, hs, hc, horder, hrendered⟩ := select_rendered rfl hf
  cases hroot.symm.trans (Scope.ofPlan_root hs)
  have hcondition : f.select.condition = c := by rw [hrendered]
  have hparams : f.params = operandValues plan := by rw [hrendered]; rfl
  have hterms : f.select.order = orderKeys plan.orderBy := by
    rw [hrendered]
    exact orderTerms_rendered onRoot horder
  obtain ⟨t, found, ht, hfound, hkeys, hcounting⟩ := run_paged isWhole plan.page hrun
  obtain ⟨rows, rfl, hrows⟩ := find_records ht (by rw [hsource]) hfound
  rw [hsource, hcondition, hparams] at hrows
  rw [result_sorted isWhole hterms] at hkeys
  have hlength := count_of_run (hcount plan.page plan.orderBy) hcounting
  rw [List.length_map, Value.toCount_ofCount] at hlength
  exact ⟨s, c, rows, hs, hc, hrows, hkeys, hlength⟩

/-- The terms of the keys come first, and the primary key decides after them. -/
theorem precedes_keys {root : Entity} {key : Attribute}
    (hkey : root.primaryKeyAttribute? = some key) {sorts : List SortKey} {terms : List OrderTerm}
    (h : OrderTerm.ofKeys registry root sorts = .ok terms) :
    ∃ bound, sorts.mapM (OrderTerm.ofKey registry root) = .ok bound ∧ ∀ {a b : Record},
      Precedes a b terms → Precedes a b (bound ++ [OrderTerm.ofAttribute key .asc]) := by
  obtain ⟨bound, hbound, h⟩ := bind_eq_ok.mp h
  refine ⟨bound, hbound, ?_⟩
  rw [← OrderTerm.tiebreaker_eq hkey]
  split at h
  · cases h
    exact fun precedes => precedes.append _
  · cases h
    exact id

/-- What a search answers does not depend on the order in which rows were inserted: two stores with
the same rows answer with the same keys and the same count, if they answer at all and the primary
key is no string. The keys are those of the rows that are found, in the order of the keys of the
search and then of the primary key, and the count is the number of these rows. -/
theorem same_rows_same_answer {entities : List Entity} {aliases : List EntityAlias}
    (built : Registry.build entities aliases = .ok registry) {config : Config} {name : String}
    {filter orderBy : Json} {page : Option Page}
    (compiled : (Compiler.mk registry config).compile name filter orderBy page = .ok plan)
    {root : Entity} (start : (Compiler.mk registry config).root name = .ok root) {key : Attribute}
    (hkey : root.primaryKeyAttribute? = some key) (notString : key.type ≠ .string)
    (same : st.SameRows st')
    (distinct : (st.records root.table).Pairwise fun a b =>
      (a.value root.primaryKey).equal (b.value root.primaryKey) = some false)
    {keys keys' : List Value} (h : st.execute registry plan = .ok keys)
    (h' : st'.execute registry plan = .ok keys') :
    ∃ resolved sorts terms, ∃ found : Record → Bool, ∃ all : List Record,
      (Compiler.mk registry config).resolve root filter = .ok resolved ∧
      SortKey.parseAll orderBy = .ok sorts ∧
      sorts.mapM (OrderTerm.ofKey registry root) = .ok terms ∧
      (plan.joins.length < UInt32.size →
        ∀ row, found row = (resolved.truth registry st row == some true)) ∧
      all.Perm ((st.records root.table).filter found) ∧
      all.Pairwise (Precedes · · (terms ++ [OrderTerm.ofAttribute key .asc])) ∧
      keys = Page.returned page (all.map (·.value root.primaryKey)) ∧ keys' = keys ∧
      st.count registry plan = .ok (min all.length largestWord) ∧
      st'.count registry plan = .ok (min all.length largestWord) := by
  have consistent := Registry.build_consistent built
  have sound := consistent.sound root (Compiler.root_mem start)
  obtain ⟨root', resolved, terms, start', hresolved, ordering, hplan⟩ :=
    Compiler.compile_eq_ok compiled
  cases start.symm.trans start'
  have horder : plan.orderBy = terms := by rw [hplan]
  have hpage : plan.page = page := by rw [hplan]
  obtain ⟨sorts, hsorts, hterms⟩ := bind_eq_ok.mp ordering
  obtain ⟨bound, hbound, precedes⟩ := precedes_keys hkey hterms
  have onRoot : ∀ t ∈ plan.orderBy, t.column.occurrence = .root := fun t ht =>
    (OrderTerm.ofKeys_root sound hterms t (horder ▸ ht)).1
  obtain ⟨s, c, rows, hs, hc, hrows, hkeys, hcount⟩ := execute_sorted onRoot h
  obtain ⟨s', c', rows', hs', hc', hrows', hkeys', hcount'⟩ := execute_sorted onRoot h'
  cases hs.symm.trans hs'
  cases hc.symm.trans hc'
  cases (Compiler.compile_start compiled start).symm.trans (Scope.ofPlan_root hs)
  rw [horder, hpage] at hkeys hkeys'
  let found : Record → Bool := fun row =>
    c.truth st (operandValues plan) [row.frame rootRow] == some true
  -- The same rows are found in the other store, and there is one way to sort them.
  have hfound : rows'.Perm ((st.records s.root.table).filter found) :=
    hrows'.trans (same.true_rows s.root.table rootRow (operandValues plan) c)
  have apart : ((st.records s.root.table).filter found).Pairwise fun a b => ¬ Ties terms a b :=
    (distinct.filter found).imp fun hne => not_ties sound hkey hterms notString hne
  have hlength : (sortRows terms rows).length = rows.length := (sortRows_perm terms rows).length_eq
  have hlength' : rows.length = rows'.length := (hrows.trans hfound.symm).length_eq
  refine ⟨resolved, sorts, bound, found, sortRows terms rows, hresolved, hsorts, hbound, ?_,
    (sortRows_perm terms rows).trans hrows, (sortRows_sorted hrows apart).imp precedes, hkeys, ?_,
    ?_, ?_⟩
  · intro size row
    obtain ⟨_, _, compiles⟩ := Compiler.compile_compiles consistent compiled size
    cases start.symm.trans compiles.start
    cases hresolved.symm.trans compiles.resolve
    have htruth : c.truth st (operandValues plan) [row.frame rootRow] =
        resolved.truth registry st row :=
      (rendered_truth compiles.wellFormed hs hc row).trans (compiles.truth_eq consistent st row)
    exact congrArg (· == some true) htruth
  · rw [hkeys', hkeys, sortRows_unique hrows hfound apart]
  · rw [hlength, hcount]
  · rw [hlength, hlength', hcount']

namespace Bookcase

def bookTable : TableDef :=
  ⟨"book", some "id", [⟨"id", .integer⟩, ⟨"title", .text⟩, ⟨"pages", .integer⟩,
    ⟨"author_id", .integer⟩]⟩

/-- A store without books. -/
def shelf : Store := ⟨[⟨bookTable, []⟩]⟩

/-- Two books whose titles differ by case, and one without a title. -/
def volumes : List (List (String × Value)) :=
  [[("id", number 1), ("title", .text "b"), ("pages", number 100)],
    [("id", number 2), ("title", .text "B"), ("pages", number 200)],
    [("id", number 3), ("pages", number 300)]]

/-- The store after these books were inserted one after another. -/
def shelved (books : List (List (String × Value))) : Store := (shelf.insertAll "book" books).1

def byTitle : Json := .array [.string "Book", .string "title", .string "desc"]

/-- The first two books of more than 50 pages, from the last title on. -/
def lastTitles : Plan :=
  { thick with
    orderBy := [⟨⟨.root, "title"⟩, .desc, true⟩, ⟨⟨.root, "id"⟩, .asc, false⟩]
    page := some ⟨1, 2⟩ }

theorem lastTitles_compiled : (Compiler.mk Sql.Example.schema Sql.Example.config).compile "Book"
    thickFilter byTitle (some ⟨1, 2⟩) = .ok lastTitles := by
  with_unfolding_all rfl

theorem volumes_number : shelf.Numbers "book" volumes := by
  intro t ht values hvalues index hindex
  cases ht
  have hkey : bookTable.numberIndex? = some 0 := by decide
  cases hkey.symm.trans hindex
  have each : ∀ values ∈ volumes,
      ((Table.mk bookTable []).cellsOf values).getD 0 .null ≠ .null := by
    decide
  exact each values hvalues

theorem shelved_sameRows : (shelved volumes).SameRows (shelved volumes.reverse) :=
  insertAll_sameRows (SameRows.refl shelf) volumes.reverse_perm.symm volumes_number (by rfl)
    (by rfl)

end Bookcase

open Bookcase in
theorem shelf_answers : ∃ terms, ∃ all : List Record,
    all.Pairwise (Precedes · · (terms ++ [OrderTerm.ofAttribute ⟨"id", .integer⟩ .asc])) ∧
    [number 1, number 2] = Page.returned (some ⟨1, 2⟩) (all.map (·.value "id")) ∧
    (shelved volumes).execute Sql.Example.schema lastTitles = .ok [number 1, number 2] ∧
    (shelved volumes.reverse).execute Sql.Example.schema lastTitles = .ok [number 1, number 2] ∧
    (shelved volumes).count Sql.Example.schema lastTitles = .ok (min all.length largestWord) ∧
    (shelved volumes.reverse).count Sql.Example.schema lastTitles =
      .ok (min all.length largestWord) := by
  have h : (shelved volumes).execute Sql.Example.schema lastTitles =
      .ok [number 1, number 2] := by
    decide +kernel
  have h' : (shelved volumes.reverse).execute Sql.Example.schema lastTitles =
      .ok [number 1, number 2] := by
    decide +kernel
  obtain ⟨_, _, terms, _, all, -, -, -, -, -, hsorted, hkeys, -, hcount, hcount'⟩ :=
    same_rows_same_answer Sql.Example.schema_built lastTitles_compiled book_start rfl (by decide)
      shelved_sameRows (by decide) h h'
  exact ⟨terms, all, hsorted, hkeys, h, h', hcount, hcount'⟩

end Store

end FieldSearch
