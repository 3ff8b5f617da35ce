import FieldSearch.Proofs.Sql.Statement
import FieldSearch.Proofs.Store.Answer
import FieldSearch.Proofs.Store.Ranking

/-!
# What a text returns

A statement that is read from a text returns its rows in the order of its keys, as far as its window
reaches, or their number; the keys leave open in what order rows come that they do not tell apart.
Whatever the execution of a plan returns is an answer to the statement in the text of the plan.
-/

namespace FieldSearch

open Sql Std

namespace Sql.Statement

/-- The order in which a key puts two rows. -/
def Key.order (k : Key) (a b : Environment) : Ordering :=
  k.direction.order k.caseInsensitive (a.column k.column).2 (b.column k.column).2

instance (k : Key) : TransCmp k.order :=
  @transCmp_comap _ _ (k.direction.order k.caseInsensitive) _ fun a : Environment =>
    (a.column k.column).2

/-- The first key that tells two rows apart decides on their order. -/
def keysOrder : List Key → Environment → Environment → Ordering
  | [] => fun _ _ => .eq
  | k :: rest => compareLex k.order (keysOrder rest)

instance (keys : List Key) : TransCmp (keysOrder keys) := by
  induction keys with
  | nil => exact { eq_swap := rfl, isLE_trans := fun _ _ => rfl }
  | cons k rest ih => exact inferInstanceAs (TransCmp (compareLex _ _))

/-- The rows of the table of a statement on which its condition is true. -/
def rows (t : Statement) (s : Store) (params : List Value) : List Environment :=
  ((s.records t.source.table).map fun r => [(t.source.row, r)]).filter fun env =>
    t.condition.truth s params env == some true

/-- The values are an answer to the statement. -/
inductive Answers (t : Statement) (s : Store) (params : List Value) : List Value → Prop
  | count : t.output = .count → t.window = none →
    Answers t s params [.ofCount (t.rows s params).length]
  | column {c : Reference} {ordered : List Environment} : t.output = .column c →
    ordered.Perm (t.rows s params) →
    ordered.Pairwise (fun a b => (keysOrder t.order a b).isLE) →
    Answers t s params
      ((t.window.elim ordered (·.slice params ordered)).map fun env => (env.column c).2)

end Sql.Statement

namespace Store

variable {st : Store}

/-! ### Keys of a text and keys of the statement -/

theorem key_order (o : OrderBy) (a b : Frames) :
    o.key.order (.ofFrames a) (.ofFrames b) = o.cmp a b := by
  have hswap : Value.order o.caseInsensitive (b.value o.column) (a.value o.column) =
      (Value.order o.caseInsensitive (a.value o.column) (b.value o.column)).swap :=
    OrientedCmp.eq_swap
  simp only [Statement.Key.order, OrderBy.key, Environment.column_ofFrames, OrderBy.cmp,
    Value.cmpFor_eq_order, SortDirection.order]
  cases o.direction with
  | asc => rfl
  | desc => exact hswap

theorem keysOrder_eq (order : List OrderBy) (a b : Frames) :
    Statement.keysOrder (order.map OrderBy.key) (.ofFrames a) (.ofFrames b) =
      cmpRows order a b := by
  induction order with
  | nil => rfl
  | cons o rest ih =>
    rw [List.map_cons, Statement.keysOrder, compareLex, key_order, ih]
    rfl

instance (order : List OrderBy) : TransCmp (cmpRows order) := by
  have same : cmpRows order = fun a b : Frames =>
      Statement.keysOrder (order.map OrderBy.key) (.ofFrames a) (.ofFrames b) := by
    funext a b
    exact (keysOrder_eq order a b).symm
  rw [same]
  exact transCmp_comap Environment.ofFrames

/-! ### Answers -/

/-- The rows that a statement finds are those of its text. -/
theorem find_rows {f : Fragment} {t : Table} (accepts : st.Accepts t f) {rows : List Frames}
    (h : st.find t f = .ok rows) :
    (rows.map Environment.ofFrames).Perm (f.select.statement.rows st f.params) := by
  have hvisited := (visited_perm st t f.params f.select).map (framesOf t f.select)
  have hrows : (t.rows.map (framesOf t f.select)).map Environment.ofFrames =
      (st.records f.select.source.table).map fun r => [(f.select.source.row.text, r)] := by
    rw [records_eq accepts.table, Table.records, List.map_map, List.map_map]
    rfl
  have htrue : f.select.statement.rows st f.params =
      ((t.rows.map (framesOf t f.select)).filter fun fs =>
        f.select.condition.truth st f.params fs == some true).map Environment.ofFrames := by
    change ((st.records f.select.source.table).map
      fun r => [(f.select.source.row.text, r)]).filter _ = _
    rw [← hrows, List.filter_map]
    simp only [← Condition.truth_expr]
    rfl
  rw [find_sound h, htrue]
  exact (hvisited.filter _).map _

theorem windowed_map {α β : Type} (window : Option Window) (params : List Value) (g : α → β)
    (as : List α) : window.elim (as.map g) (·.slice params (as.map g)) =
      (window.elim as (·.slice params as)).map g := by
  cases window with
  | none => rfl
  | some w =>
    simp only [Option.elim_some, Window.slice, ← List.map_drop]
    cases (operand params w.limit).limit? with
    | none => rfl
    | some n => exact List.map_take.symm

/-- What a statement on a column returns is an answer to its text. -/
theorem run_column {f : Fragment} {c : ColumnName} (output : f.select.output = .column c)
    {values : List Value} (h : st.run f = .ok values) :
    f.select.statement.Answers st f.params values := by
  obtain ⟨t, rows, accepts, hrows, rfl⟩ := run_eq_ok.mp h
  let sorted := sortBy (cmpRows f.select.order · · != .gt) rows
  have hperm : (sorted.map Environment.ofFrames).Perm (f.select.statement.rows st f.params) :=
    ((sortBy_perm _ rows).map _).trans (find_rows accepts hrows)
  have hsorted : (sorted.map Environment.ofFrames).Pairwise fun a b =>
      (Statement.keysOrder f.select.statement.order a b).isLE := by
    rw [List.pairwise_map]
    refine (sortBy_sorted rows).imp fun {a b} hle => ?_
    rw [Select.statement, keysOrder_eq]
    exact hle
  have houtput : f.select.statement.output = .column c.reference := by
    rw [Select.statement, output]
    rfl
  have hvalues : result f.params f.select rows = (f.select.statement.window.elim
      (sorted.map Environment.ofFrames) (·.slice f.params (sorted.map Environment.ofFrames))).map
        fun env => (env.column c.reference).2 := by
    simp only [result, output, windowed_map, List.map_map, Function.comp_def,
      Environment.column_ofFrames]
    rfl
  rw [hvalues]
  exact .column houtput hperm hsorted

theorem run_count {f : Fragment} (output : f.select.output = .count)
    (whole : f.select.window = none) {values : List Value} (h : st.run f = .ok values) :
    f.select.statement.Answers st f.params values := by
  obtain ⟨t, rows, accepts, hrows, rfl⟩ := run_eq_ok.mp h
  have hlength := (find_rows accepts hrows).length_eq
  rw [List.length_map] at hlength
  simp only [result, output, hlength]
  exact .count (by rw [Select.statement, output]; rfl) whole

section Plans

variable {registry : Registry} {root : Entity} {plan : Plan} (wf : plan.WellFormed registry root)

include wf

/-- Whatever the execution of a plan returns is an answer to its text. -/
theorem execute_answers {keys : List Value} (h : st.execute registry plan = .ok keys) :
    ∃ f t, select registry plan = .ok f ∧ Statement.ofText? f.text = some t ∧
      t.Answers st f.params keys := by
  obtain ⟨f, hf, hrun⟩ := execute_eq_ok.mp h
  obtain ⟨s, c, -, -, hc, hselect, -⟩ := wellFormed_rendered wf
  cases hf.symm.trans hselect
  have hread := Statement.ofText?_select (q := (selectStatement root plan c).select)
    (Expr.isExpr_condition hc wf.predicate)
  exact ⟨_, _, hf, hread, run_column rfl hrun⟩

/-- The number of rows of a plan is the answer to its other text. -/
theorem count_answers {n : Nat} (h : st.count registry plan = .ok n) :
    ∃ f t v, Sql.count registry plan = .ok f ∧ Statement.ofText? f.text = some t ∧
      t.Answers st f.params [v] ∧ v.toCount = n := by
  obtain ⟨f, hf, h⟩ := bind_eq_ok.mp h
  obtain ⟨values, hrun, h⟩ := bind_eq_ok.mp h
  rw [mapError_eq_ok] at hf hrun
  obtain ⟨s, c, -, -, hc, -, hcount⟩ := wellFormed_rendered wf
  cases hf.symm.trans hcount
  have hread := Statement.ofText?_select (q := (countStatement root plan c).select)
    (Expr.isExpr_condition hc wf.predicate)
  have hanswers := run_count rfl rfl hrun
  obtain ⟨t, rows, -, -, rfl⟩ := run_eq_ok.mp hrun
  cases h
  exact ⟨_, _, _, hf, hread, hanswers, rfl⟩

/-- On a store that hosts the schema both texts of a plan are answered. -/
theorem Hosts.answers (hosts : st.Hosts registry) (consistent : registry.Consistent) :
    (∃ f t keys, select registry plan = .ok f ∧ Statement.ofText? f.text = some t ∧
        st.execute registry plan = .ok keys ∧ t.Answers st f.params keys) ∧
      ∃ f t v, Sql.count registry plan = .ok f ∧ Statement.ofText? f.text = some t ∧
        st.count registry plan = .ok v.toCount ∧ t.Answers st f.params [v] := by
  obtain ⟨s, c, t, readable⟩ := hosts.carries.readable consistent wf
  have quiet := hosts.hasTexts.quietOn wf.root_mem wf readable.fits readable.rendered
  constructor
  · obtain ⟨keys, hkeys⟩ := readable.exists_execute quiet
    obtain ⟨f, t, hf, ht, hanswers⟩ := execute_answers wf hkeys
    exact ⟨f, t, keys, hf, ht, hkeys, hanswers⟩
  · obtain ⟨n, hn⟩ := readable.exists_count quiet
    obtain ⟨f, t, v, hf, ht, hanswers, rfl⟩ := count_answers wf hn
    exact ⟨f, t, v, hf, ht, hn, hanswers⟩

end Plans

end Store

end FieldSearch
