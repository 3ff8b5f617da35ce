import FieldSearch.Proofs.Search.Direct
import FieldSearch.Proofs.Sql.Faithful
import FieldSearch.Proofs.Store.Bound
import FieldSearch.Proofs.Store.Testing
import FieldSearch.Store.Search

/-!
# The answer to a search

Executing a compiled plan returns the keys of exactly the rows on which the resolved filter is true.
What it returns does not depend on the store being one of the schema; that it returns does.
-/

namespace FieldSearch

open Sql

namespace Sql.Value

/-- A comparison fails only if it is a search with a bad pattern or in something that is no text. -/
theorem compare_eq_ok {comparison : Comparison} (notIn : comparison ≠ .isIn) {type : StorageType}
    {v operand : Value}
    (search : comparison = .regex → v.isTextOrNull = true ∧
      ∃ p, operand = text p ∧ Pattern.isValid p = true) :
    ∃ t, v.compare comparison type operand = .ok t := by
  cases comparison with
  | isIn => exact absurd rfl notIn
  | regex =>
    obtain ⟨hv, p, rfl, valid⟩ := search rfl
    obtain ⟨pattern, hpattern⟩ := Option.isSome_iff_exists.mp valid
    cases v with
    | null => exact ⟨none, by simp only [compare, Value.search, hpattern]⟩
    | text t =>
      exact ⟨some (pattern.isMatch t), by simp only [compare, Value.search, hpattern]⟩
    | integer n => cases hv
    | real x => cases hv
  | _ => exact ⟨_, rfl⟩

end Sql.Value

namespace Store

variable {st : Store} {registry : Registry} {root : Entity} {joins : List JoinEntry}

/-- The rows that occurrences are bound to come from the tables of their entities. -/
def DrawnFrom (st : Store) (rows : Rows) (s : Sql.Scope) (inside : Option Occurrence) : Prop :=
  ∀ o e, s.StandsFor inside o e → rows o ∈ st.records e.table

theorem presence_quiet (b : Binding) (o : Occurrence) (present : Bool) (params : List Value)
    (fs : Frames) : (b.presence o present).Quiet st params fs := by
  cases hj : b.relation.join <;> cases present <;> simp only [Binding.presence, hj] <;> trivial

section Condition

variable {s : Sql.Scope} {rows : Rows} {inside : Option Occurrence}

theorem DrawnFrom.start {row : Record} (h : row ∈ st.records s.root.table) :
    st.DrawnFrom (fun _ => row) s none := by
  rintro _ _ (_ | ⟨heq, _⟩)
  · exact h
  · cases heq

theorem DrawnFrom.bind (drawn : st.DrawnFrom rows s inside) {o : Occurrence} (ho : o ≠ .root)
    {b : Binding} (hb : s.binding o = .ok b) {r : Record}
    (hr : r ∈ b.targets st (rows .root)) : st.DrawnFrom (rows.bind o r) s (some o) := by
  rintro _ _ (_ | ⟨heq, hb'⟩)
  · rw [rows.bind_ne r ho.symm]
    exact drawn _ _ .root
  · cases heq
    cases hb.symm.trans hb'
    rw [rows.bind_self]
    exact (List.mem_filter.mp hr).1

theorem HasTexts.column_isText (texts : st.HasTexts registry) (hroot : root ∈ registry.entities)
    (fits : s.Fits registry root joins) {c : Column} {a : Attribute}
    (names : c.Names registry root joins inside a) (string : a.type = .string)
    (drawn : st.DrawnFrom rows s inside) : (rows.column c).2.isTextOrNull = true := by
  obtain ⟨e, he, stands, hmem, hname⟩ := fits.entity hroot names
  rw [Rows.column, ← hname]
  exact texts e he a hmem string _ (drawn _ _ stands)

/-- No comparison in a rendered condition fails. -/
theorem HasTexts.condition_quiet (texts : st.HasTexts registry) (hroot : root ∈ registry.entities)
    (fits : s.Fits registry root joins) (apart : ∀ e ∈ joins, e.occurrence ≠ .root)
    {params : List Value} {p : Predicate} {next : Nat} {c : Condition}
    (h : condition s next p = .ok c) (wf : p.WellFormed registry root joins inside)
    (supplies : Supplies params next p.operands) {fs : Frames} (binds : Binds fs rows inside)
    (outermost : inside = none → fs = [(rows .root).frame rootRow])
    (drawn : st.DrawnFrom rows s inside) : c.Quiet st params fs := by
  have hnot : ∀ o ∈ joins.map (·.occurrence), o ≠ .root := by simpa using apart
  refine condition_induct (motive := fun next p c => ∀ inside,
    p.WellFormed registry root joins inside → Supplies params next p.operands →
    ∀ fs rows, Binds fs rows inside → (inside = none → fs = [(rows .root).frame rootRow]) →
    st.DrawnFrom rows s inside → c.Quiet st params fs)
    ?compare ?isIn ?isNull ?isNotNull ?exist ?related ?not ?and ?or p h inside wf supplies fs rows
    binds outermost drawn
  case compare =>
    intro next column comparison v name hname inside wf supplies fs rows binds _ drawn
    cases wf with
    | compare names notIn _ htype pattern _ valid =>
      cases (fits.column apart names).symm.trans hname
      have hv : operand params next = .ofScalar v := Supplies.single supplies
      simp only [Condition.Quiet, Store.comparison, binds.column names, hv]
      refine Value.compare_eq_ok notIn fun hregex => ?_
      have hstring := pattern (by rw [hregex]; rfl)
      refine ⟨texts.column_isText hroot fits names hstring drawn, ?_⟩
      rw [hstring] at htype
      cases v with
      | string p => exact ⟨p, rfl, valid p hregex rfl⟩
      | _ => cases htype
  case isIn =>
    intro next column vs name _ inside _ _ fs rows _ _ _
    cases vs with
    | nil => trivial
    | cons v rest => trivial
  case isNull => intros; trivial
  case isNotNull => intros; trivial
  case exist =>
    intro next o inner b c hb ih inside wf supplies fs rows _ outermost drawn
    cases wf with
    | exist ho hinner =>
      rw [outermost rfl]
      intro gs hgs
      obtain ⟨r, hr, binds⟩ := related_binds (hnot o ho) b hgs
      refine ih _ hinner supplies gs _ binds ?_ (drawn.bind (hnot o ho) hb hr)
      intro hnone
      cases hnone
  case related =>
    intro next o present b hb inside _ _ fs rows _ _ _
    exact presence_quiet b o present params fs
  case not =>
    intro next inner c ih inside wf supplies fs rows binds outermost drawn
    cases wf with
    | not hinner => exact ih _ hinner supplies fs rows binds outermost drawn
  case and =>
    intro next parts cs hcs inside wf supplies fs rows binds outermost drawn
    cases wf with
    | and _ hparts =>
      refine Condition.allQuiet_of_forall₂ (hcs.supplied supplies ?_)
      intro part hpart next c h supplies
      exact h inside (hparts part hpart) supplies fs rows binds outermost drawn
  case or =>
    intro next parts cs hcs inside wf supplies fs rows binds outermost drawn
    cases wf with
    | or _ hparts =>
      refine Condition.allQuiet_of_forall₂ (hcs.supplied supplies ?_)
      intro part hpart next c h supplies
      exact h inside (hparts part hpart) supplies fs rows binds outermost drawn

/-- No comparison in the condition of a plan fails on a row of the root, whatever parameters follow
the operands. -/
def QuietOn (st : Store) (root : Entity) (plan : Plan) (c : Condition) : Prop :=
  ∀ rest, ∀ row ∈ st.records root.table, c.Quiet st (operandValues plan ++ rest)
    [row.frame rootRow]

theorem HasTexts.quietOn (texts : st.HasTexts registry) (hroot : root ∈ registry.entities)
    {plan : Plan} (wf : plan.WellFormed registry root) (fits : s.Fits registry root plan.joins)
    {c : Condition} (h : condition s 1 plan.predicate = .ok c) : st.QuietOn root plan c := by
  intro rest row hrow
  have hstart : row ∈ st.records s.root.table := by
    rw [fits.start]
    exact hrow
  exact texts.condition_quiet hroot fits wf.apart h wf.predicate (supplies_operands _ rest)
    (binds_root fun _ => row) (fun _ => rfl) (.start hstart)

end Condition

/-- All names in the statement of a well-formed plan refer to something. -/
theorem Carries.select_isBound (carries : st.Carries registry) (consistent : registry.Consistent)
    (hroot : root ∈ registry.entities) {plan : Plan} (wf : plan.WellFormed registry root)
    {s : Sql.Scope} (fits : s.Fits registry root plan.joins) {c : Condition}
    (h : condition s 1 plan.predicate = .ok c) {t : Table}
    (ht : st.table? root.table = some t) :
    st.isBound t (selectStatement root plan c).select = true := by
  have covers := covers_frame ht rootRow []
  have hkey := carries.has_column (tables_declare_key hroot consistent) covers
  have provides : Frames.Provides st [t.frame rootRow] s none := by
    rintro _ _ (_ | ⟨heq, _⟩)
    · exact fits.start ▸ covers
    · cases heq
  have hcondition :=
    carries.condition_isBound consistent hroot fits wf.apart h wf.predicate provides
  have horder : ∀ term ∈ plan.orderBy,
      Frames.has [t.frame rootRow] ⟨rootRow, term.column.name⟩ = true := by
    intro term hterm
    obtain ⟨a, ha⟩ := Option.isSome_iff_exists.mp (wf.order term hterm).2
    obtain ⟨hmem, hname⟩ := Entity.attribute?_eq_some ha
    rw [← hname]
    exact carries.has_column (tables_declare_attribute hroot hmem) covers
  simp only [isBound, selectStatement, hcondition, Output.columns, List.singleton_append,
    List.map_map, List.all_cons, hkey, Bool.true_and, List.all_map, List.all_eq_true]
  exact horder

/-- Both statements of a plan, and the table of the store that they are on. -/
structure Readable (st : Store) (registry : Registry) (root : Entity) (plan : Plan)
    (s : Sql.Scope) (c : Condition) (t : Table) : Prop where
  fits : s.Fits registry root plan.joins
  rendered : condition s 1 plan.predicate = .ok c
  table : st.table? root.table = some t
  select : Sql.select registry plan = .ok (selectStatement root plan c)
  count : Sql.count registry plan = .ok (countStatement root plan c)
  acceptsSelect : st.Accepts t (selectStatement root plan c)
  acceptsCount : st.Accepts t (countStatement root plan c)

/-- A store that carries the schema can read both statements of a well-formed plan. -/
theorem Carries.readable (carries : st.Carries registry) (consistent : registry.Consistent)
    {plan : Plan} (wf : plan.WellFormed registry root) :
    ∃ s c t, st.Readable registry root plan s c t := by
  have hroot := wf.root_mem
  obtain ⟨s, c, -, fits, hc, hselect, hcount⟩ := wellFormed_rendered wf
  obtain ⟨t, ht, -⟩ := carries.table (tables_declare_key hroot consistent)
  have hbound := carries.select_isBound consistent hroot wf fits hc ht
  have hcondition : c.isBound st [t.frame rootRow] = true := by
    rw [isBound, Bool.and_eq_true] at hbound
    exact hbound.1
  refine ⟨s, c, t, fits, hc, ht, hselect, hcount, ?_, ?_⟩
  · exact ⟨ht, carries.text_legible consistent (select_contained consistent hselect), hbound⟩
  · refine ⟨ht, carries.text_legible consistent (count_contained consistent hcount), ?_⟩
    simp [isBound, countStatement, Output.columns, hcondition]

theorem execute_eq_ok {plan : Plan} {keys : List Value} : st.execute registry plan = .ok keys ↔
    ∃ f, select registry plan = .ok f ∧ st.run f = .ok keys := by
  simp only [execute, bind_eq_ok, mapError_eq_ok]

theorem count_of_run {plan : Plan} {f : Fragment} {v : Value} (hf : Sql.count registry plan = .ok f)
    (hrun : st.run f = .ok [v]) : st.count registry plan = .ok v.toCount := by
  rw [count, mapError_eq_ok.mpr hf]
  exact bind_eq_ok.mpr ⟨f, rfl, bind_eq_ok.mpr ⟨[v], mapError_eq_ok.mpr hrun, rfl⟩⟩

section Success

variable {plan : Plan} {s : Sql.Scope} {c : Condition} {t : Table}
  (readable : st.Readable registry root plan s c t) (quiet : st.QuietOn root plan c)

include readable quiet

theorem Readable.exists_execute : ∃ keys, st.execute registry plan = .ok keys := by
  have hquiet : ∀ r ∈ t.rows, c.Quiet st (selectStatement root plan c).params
      (framesOf t (selectStatement root plan c).select r) := by
    intro r hr
    exact quiet _ _ (mem_records readable.table hr)
  obtain ⟨rows, hrun⟩ := readable.acceptsSelect.exists_run hquiet
  exact ⟨_, execute_eq_ok.mpr ⟨_, readable.select, hrun⟩⟩

theorem Readable.exists_count : ∃ n, st.count registry plan = .ok n := by
  have hquiet : ∀ r ∈ t.rows, c.Quiet st (countStatement root plan c).params
      (framesOf t (countStatement root plan c).select r) := by
    intro r hr
    have hrow := quiet [] _ (mem_records readable.table hr)
    rw [List.append_nil] at hrow
    exact hrow
  obtain ⟨rows, hrun⟩ := readable.acceptsCount.exists_run hquiet
  exact ⟨_, count_of_run readable.count hrun⟩

end Success

/-- What a plan without a page is rendered to if it is at all. -/
theorem select_rendered {plan : Plan} (whole : plan.page = none) {f : Fragment}
    (h : Sql.select registry plan = .ok f) :
    ∃ s c order, Scope.ofPlan registry plan = .ok s ∧ condition s 1 plan.predicate = .ok c ∧
      plan.orderBy.mapM s.orderTerm = .ok order ∧
      f = ⟨⟨.column ⟨rootRow, s.root.primaryKey⟩, ⟨s.root.table, rootRow⟩, c, order, none⟩,
        operandValues plan⟩ := by
  obtain ⟨s, c, order, hs, hc, horder, rfl⟩ := select_eq_ok.mp h
  refine ⟨s, c, order, hs, hc, horder, ?_⟩
  simp [statementOf, windowValues, whole]

/-- Executing a plan without a page returns, if anything, the keys of the rows of the root on which
the condition of the plan is true. -/
theorem execute_rendered {plan : Plan} (whole : plan.page = none) {keys : List Value}
    (h : st.execute registry plan = .ok keys) :
    ∃ s c, Scope.ofPlan registry plan = .ok s ∧ condition s 1 plan.predicate = .ok c ∧
      keys.Perm (((st.records s.root.table).filter fun row =>
        c.truth st (operandValues plan) [row.frame rootRow] == some true).map
          (·.value s.root.primaryKey)) := by
  obtain ⟨f, hf, hrun⟩ := execute_eq_ok.mp h
  obtain ⟨s, c, order, hs, hc, -, rfl⟩ := select_rendered whole hf
  refine ⟨s, c, hs, hc, ?_⟩
  obtain ⟨t, accepts, hkeys⟩ := run_sound hrun rfl rfl
  have hrecords := records_eq accepts.table
  have hframes : t.rows.map (framesOf t ⟨.column ⟨rootRow, s.root.primaryKey⟩,
      ⟨s.root.table, rootRow⟩, c, order, none⟩) =
      t.records.map fun row => [row.frame rootRow] := by
    rw [Table.records, List.map_map]
    rfl
  rw [hframes, List.filter_map, List.map_map] at hkeys
  simpa only [hrecords, Function.comp_def, Record.value_frame] using hkeys

/-- The condition of a well-formed plan has the truth value of its predicate. -/
theorem rendered_truth {plan : Plan} (wf : plan.WellFormed registry root) {s : Sql.Scope}
    (hs : Scope.ofPlan registry plan = .ok s) {c : Condition}
    (hc : condition s 1 plan.predicate = .ok c) (row : Record) :
    c.truth st (operandValues plan) [row.frame rootRow] = plan.truth registry st row := by
  obtain ⟨s', hs', fits⟩ := Scope.ofPlan_eq_ok wf
  cases hs.symm.trans hs'
  have hrow := plan_condition_truth wf fits hc [] st row
  rwa [List.append_nil] at hrow

/-- Executing a well-formed plan without a page returns, if anything, the keys of the rows of the
root on which its predicate is true. -/
theorem execute_sound {plan : Plan} (wf : plan.WellFormed registry root)
    (whole : plan.page = none) {keys : List Value} (h : st.execute registry plan = .ok keys) :
    keys.Perm (((st.records root.table).filter fun row =>
      plan.truth registry st row == some true).map (·.value root.primaryKey)) := by
  obtain ⟨s, c, hs, hc, hkeys⟩ := execute_rendered whole h
  obtain ⟨s', hs', fits⟩ := Scope.ofPlan_eq_ok wf
  cases hs.symm.trans hs'
  simpa only [rendered_truth wf hs hc, fits.start] using hkeys

/-- Executing a well-formed plan without a page returns the keys of the rows of the root on which
its predicate is true. -/
theorem Hosts.execute_rows (hosts : st.Hosts registry) (consistent : registry.Consistent)
    {plan : Plan} (wf : plan.WellFormed registry root) (whole : plan.page = none) :
    ∃ keys, st.execute registry plan = .ok keys ∧
      keys.Perm (((st.records root.table).filter fun row =>
        plan.truth registry st row == some true).map (·.value root.primaryKey)) := by
  have hroot := wf.root_mem
  obtain ⟨s, c, t, readable⟩ := hosts.carries.readable consistent wf
  have quiet := hosts.hasTexts.quietOn hroot wf readable.fits readable.rendered
  obtain ⟨keys, hkeys⟩ := readable.exists_execute quiet
  exact ⟨keys, hkeys, execute_sound wf whole hkeys⟩

namespace Bookcase

def number (n : Int64) : Value := .integer n

/-- A book of no author and of 100 pages, with both tags, and one of an unknown number of pages
whose author was born later. -/
def library : Store :=
  ⟨[⟨⟨"author", some "id", [⟨"id", .integer⟩, ⟨"born", .integer⟩]⟩,
      [⟨7, [number 7, number 1950]⟩]⟩,
    ⟨⟨"book", some "id", [⟨"id", .integer⟩, ⟨"title", .text⟩, ⟨"pages", .integer⟩,
        ⟨"author_id", .integer⟩]⟩,
      [⟨1, [number 1, .text "One", number 100, .null]⟩,
        ⟨2, [number 2, .text "Two", .null, number 7]⟩]⟩,
    ⟨⟨"book\"tag", none, [⟨"book_id", .integer⟩, ⟨"tag_id", .integer⟩]⟩,
      [⟨1, [number 1, number 3]⟩, ⟨2, [number 1, number 4]⟩, ⟨3, [number 2, number 3]⟩]⟩,
    ⟨⟨"tag", some "id", [⟨"id", .integer⟩, ⟨"rank", .integer⟩]⟩,
      [⟨3, [number 3, number 1]⟩, ⟨4, [number 4, number 2]⟩]⟩]⟩

theorem library_hosts : library.Hosts Sql.Example.schema where
  created := by decide +kernel
  tables := by decide
  strings := by decide

end Bookcase

/-- A search without a page returns the keys of exactly the rows of the root on which the resolved
filter is true, each as often as there are such rows. -/
theorem executed_keys_of_true_rows {entities : List Entity} {aliases : List EntityAlias}
    (built : Registry.build entities aliases = .ok registry) {config : Config} {name : String}
    {filter orderBy : Json} {plan : Plan}
    (compiled : (Compiler.mk registry config).compile name filter orderBy none = .ok plan)
    (size : plan.joins.length < UInt32.size) (hosts : st.Hosts registry) :
    ∃ root resolved keys, (Compiler.mk registry config).root name = .ok root ∧
      (Compiler.mk registry config).resolve root filter = .ok resolved ∧
      st.execute registry plan = .ok keys ∧
      keys.Perm (((st.records root.table).filter fun row =>
        resolved.truth registry st row == some true).map (·.value root.primaryKey)) := by
  have consistent := Registry.build_consistent built
  obtain ⟨root, resolved, compiles⟩ := Compiler.compile_compiles consistent compiled size
  obtain ⟨keys, hkeys, hperm⟩ :=
    hosts.execute_rows consistent compiles.wellFormed compiles.page
  refine ⟨root, resolved, keys, compiles.start, compiles.resolve, hkeys, ?_⟩
  have htruth : ∀ row, plan.truth registry st row = resolved.truth registry st row :=
    compiles.truth_eq consistent st
  simpa only [htruth] using hperm

theorem sample_executed :
    ∃ root resolved keys,
      (Compiler.mk Sql.Example.schema Sql.Example.config).root "Book" = .ok root ∧
      (Compiler.mk Sql.Example.schema Sql.Example.config).resolve root Sql.Example.filter =
        .ok resolved ∧
      Bookcase.library.execute Sql.Example.schema Sql.Example.plan = .ok keys ∧
      keys.Perm (((Bookcase.library.records root.table).filter fun row =>
        resolved.truth Sql.Example.schema Bookcase.library row == some true).map
          (·.value root.primaryKey)) :=
  executed_keys_of_true_rows Sql.Example.schema_built Sql.Example.plan_compiled (by decide)
    Bookcase.library_hosts

end Store

end FieldSearch
