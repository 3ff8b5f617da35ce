import FieldSearch.Proofs.Sql.Evaluation
import FieldSearch.Proofs.Sql.Meaning

/-!
# The text of a statement means its plan

The condition in the text of a statement, read by the grammar, has on every row of every store the
truth value of the predicate of the plan.
-/

namespace FieldSearch.Sql

/-! ### The condition in a text -/

namespace Expr

theorem ofText?_condition {c : Condition} (h : IsExpr c.tokens c.expr) :
    ofText? c.text = some c.expr := by
  have htokens : tokens c.text = some c.tokens := c.reads
  have hread := h (4 * c.tokens.length + 4) [] (by omega) ⟨rfl, rfl⟩
  rw [List.append_nil] at hread
  simp [ofText?, htokens, hread]

theorem dropWhile_head (q : Select) (rest : List Token) :
    (q.headTokens ++ rest).dropWhile (· != .word "WHERE") = .word "WHERE" :: rest := by
  have hrow : ∀ r : RowName, (Token.word r.text != .word "WHERE") = true := by
    intro r
    rw [bne_iff_ne]
    exact fun h => r.text_ne "WHERE" (by decide) (Token.word.inj h)
  cases ho : q.output with
  | column c =>
    simp [Select.headTokens, ho, Output.tokens, ColumnName.tokens, TableRef.tokens,
      hrow]
  | count =>
    simp [Select.headTokens, ho, Output.tokens, TableRef.tokens, hrow]

theorem tail_ends (q : Select) : Stops q.tailTokens ∧ endsCondition q.tailTokens = true := by
  rw [Select.tailTokens]
  cases q.order with
  | nil => cases q.window <;> exact ⟨⟨rfl, rfl⟩, rfl⟩
  | cons o rest => exact ⟨⟨rfl, rfl⟩, rfl⟩

theorem ofStatement?_select {q : Select} (h : IsExpr q.condition.tokens q.condition.expr) :
    ofStatement? q.text = some q.condition.expr := by
  have htokens : tokens q.text = some q.tokens := q.reads
  obtain ⟨hstops, hends⟩ := tail_ends q
  have hread := h (4 * (q.condition.tokens ++ q.tailTokens).length + 4) q.tailTokens
    (by rw [List.length_append]; omega) hstops
  rw [Select.tokens_eq, List.append_assoc] at htokens
  simp only [ofStatement?, htokens, Option.bind_eq_bind, Option.bind_some, dropWhile_head,
    expect_self, hread, hends, if_true]

end Expr

/-! ### The names of a plan -/

theorem binding?_eq_some {registry : Registry} {root : Entity} {plan : Plan}
    (wf : plan.WellFormed registry root) {s : Scope} (fits : s.Fits registry root plan.joins) :
    ∀ o ∈ plan.joins.map (·.occurrence), ∀ b, s.binding o = .ok b →
      plan.binding? registry o = some b := by
  intro o ho b hb
  obtain ⟨e, he, rfl⟩ := List.mem_map.mp ho
  obtain ⟨r, target, hr, -, ht, hbinding⟩ := fits.binding e he
  cases hb.symm.trans hbinding
  obtain ⟨hentity, -⟩ := Registry.searchable?_eq_some wf.start
  have hroot : registry.entity? e.source = some root := by
    rw [(wf.joins e he).source, (Registry.entity?_eq_some hentity).2]
    exact hentity
  have hfind := find?_name_of_mem (·.occurrence) wf.distinct he
  simp only [Plan.binding?, hfind, hroot, hr, ht, Option.bind_eq_bind, Option.bind_some,
    Option.pure_def]

/-- The condition of a statement of a plan means the predicate of the plan. -/
theorem plan_condition_truth {registry : Registry} {root : Entity} {plan : Plan}
    (wf : plan.WellFormed registry root) {s : Scope} (fits : s.Fits registry root plan.joins)
    {c : Condition} (h : condition s 1 plan.predicate = .ok c) (rest : List Value) (st : Store)
    (row : Store.Record) :
    c.truth st (operandValues plan ++ rest) [row.frame rootRow] = plan.truth registry st row :=
  Sql.condition_truth fits wf.apart (binding?_eq_some wf fits) h wf.predicate
    (supplies_operands _ rest) (binds_root fun _ => row) fun _ => rfl

/-- Both statements of a compiled plan have the same text for a condition, and that text, read as a
condition or within either statement, has the truth value of the predicate of the plan on every row
of every store. -/
theorem rendered_text_means_plan {entities : List Entity} {aliases : List EntityAlias}
    {registry : Registry} (built : Registry.build entities aliases = .ok registry)
    {config : Config} {name : String} {filter orderBy : Json} {page : Option Page} {plan : Plan}
    (compiled : (Compiler.mk registry config).compile name filter orderBy page = .ok plan)
    (size : plan.joins.length < UInt32.size) :
    ∃ f g text e, select registry plan = .ok f ∧ count registry plan = .ok g ∧
      f.text = f.select.head ++ text ++ f.select.tail ∧ g.text = g.select.head ++ text ∧
      Expr.ofText? text = some e ∧ Expr.ofStatement? f.text = some e ∧
      Expr.ofStatement? g.text = some e ∧
      ∀ (s : Store) (row : Store.Record),
        e.truth s f.params [("t0", row)] = plan.truth registry s row ∧
        e.truth s g.params [("t0", row)] = plan.truth registry s row := by
  obtain ⟨root, wf⟩ :=
    Compiler.compile_wellFormed (Registry.build_consistent built) compiled size
  obtain ⟨s, c, -, fits, hc, hselect, hcount⟩ := wellFormed_rendered wf
  have hexpr := Expr.isExpr_condition hc wf.predicate
  refine ⟨_, _, c.text, c.expr, hselect, hcount, Select.text_eq _, ?_, Expr.ofText?_condition hexpr,
    Expr.ofStatement?_select hexpr, Expr.ofStatement?_select hexpr, fun st row => ?_⟩
  · refine (Select.text_eq _).trans ?_
    simp [Select.tail, countStatement, orderText]
  · have hname : rootRow.text = "t0" := by decide
    have henv : Environment.ofFrames [row.frame rootRow] = [("t0", row)] := by
      rw [← hname]
      rfl
    rw [← henv, Condition.truth_expr, Condition.truth_expr]
    refine ⟨plan_condition_truth wf fits hc _ st row, ?_⟩
    have h := plan_condition_truth wf fits hc [] st row
    rwa [List.append_nil] at h

theorem sample_text_means_plan :
    ∃ f g text e, select Example.schema Example.plan = .ok f ∧
      count Example.schema Example.plan = .ok g ∧
      f.text = f.select.head ++ text ++ f.select.tail ∧ g.text = g.select.head ++ text ∧
      Expr.ofText? text = some e ∧ Expr.ofStatement? f.text = some e ∧
      Expr.ofStatement? g.text = some e ∧
      ∀ (s : Store) (row : Store.Record),
        e.truth s f.params [("t0", row)] = Example.plan.truth Example.schema s row ∧
        e.truth s g.params [("t0", row)] = Example.plan.truth Example.schema s row :=
  rendered_text_means_plan Example.schema_built Example.plan_compiled (by decide)

end FieldSearch.Sql
