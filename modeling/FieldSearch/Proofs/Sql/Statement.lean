import FieldSearch.Proofs.Sql.Faithful

/-!
# The grammar of statements

How the tokens of a whole statement are read, clause by clause to the end of the text: what it
returns, the table, the condition, the keys of the order and the placeholders of the window. What is
read knows nothing of the statement that the text was made for, and yet it is that statement, so
that the text settles the order and the window no less than the condition.
-/

namespace FieldSearch.Sql

/-- What a statement returns of its rows. -/
inductive Statement.Output where
  | column (name : Reference)
  | count
  deriving DecidableEq

/-- A key by which rows are put in order. -/
structure Statement.Key where
  column : Reference
  caseInsensitive : Bool
  direction : SortDirection
  deriving DecidableEq

/-- A statement as it stands in a text. -/
structure Statement where
  output : Statement.Output
  source : Source
  condition : Expr
  order : List Statement.Key
  window : Option Window
  deriving DecidableEq

namespace Statement

open Sql.Expr

def readOutput (ts : List Token) : Option (Output × List Token) :=
  match expect (.word "COUNT") ts with
  | none => do
    let (column, ts) ← readReference ts
    pure (.column column, ts)
  | some ts => do
    let ts ← expect (.symbol "(") ts
    let ts ← expect (.symbol "*") ts
    let ts ← expect (.symbol ")") ts
    pure (.count, ts)

def readCollation : List Token → Bool × List Token
  | .word "COLLATE" :: .word "NOCASE" :: rest => (true, rest)
  | ts => (false, ts)

def readDirection : List Token → Option (SortDirection × List Token)
  | .word "ASC" :: rest => some (.asc, rest)
  | .word "DESC" :: rest => some (.desc, rest)
  | _ => none

def readKey (ts : List Token) : Option (Key × List Token) := do
  let (column, ts) ← readReference ts
  let (caseInsensitive, ts) := readCollation ts
  let (direction, ts) ← readDirection ts
  pure (⟨column, caseInsensitive, direction⟩, ts)

/-- The keys after `ORDER BY`, none if it is not there. -/
def readOrder (ts : List Token) : Option (List Key × List Token) :=
  match expect (.word "ORDER") ts with
  | none => some ([], ts)
  | some ts => do
    let ts ← expect (.word "BY") ts
    readList readKey (ts.length + 1) ts

/-- The placeholders after `LIMIT` and `OFFSET`, none if they are not there. -/
def readWindow (ts : List Token) : Option (Option Window × List Token) :=
  match expect (.word "LIMIT") ts with
  | none => some (none, ts)
  | some (.placeholder limit :: .word "OFFSET" :: .placeholder offset :: rest) =>
    some (some ⟨limit, offset⟩, rest)
  | some _ => none

/-- Read the whole text as a statement. -/
def ofText? (text : String) : Option Statement := do
  let ts ← expect (.word "SELECT") (← tokens text)
  let (output, ts) ← readOutput ts
  let ts ← expect (.word "FROM") ts
  let (source, ts) ← readSource ts
  let ts ← expect (.word "WHERE") ts
  let (condition, ts) ← readExpr (4 * ts.length + 4) ts
  let (order, ts) ← readOrder ts
  let (window, ts) ← readWindow ts
  if ts.isEmpty then some ⟨output, source, condition, order, window⟩ else none

end Statement

/-! ### What a rendered statement is read as -/

def Output.toStatement : Output → Statement.Output
  | column c => .column c.reference
  | count => .count

def OrderBy.key (o : OrderBy) : Statement.Key :=
  ⟨o.column.reference, o.caseInsensitive, o.direction⟩

/-- The statement that the text of a `select` stands for. -/
def Select.statement (q : Select) : Statement :=
  ⟨q.output.toStatement, q.source.toSource, q.condition.expr, q.order.map OrderBy.key, q.window⟩

namespace Statement

open Sql.Expr

theorem readOutput_tokens (o : Sql.Output) (rest : List Token) :
    readOutput (o.tokens ++ rest) = some (o.toStatement, rest) := by
  cases o with
  | count => rfl
  | column c =>
    have hcount : expect (.word "COUNT") (c.tokens ++ rest) = none := by
      refine expect_ne ?_ _
      exact fun h => c.row.text_ne "COUNT" (by decide) (Token.word.inj h)
    rw [Sql.Output.tokens, readOutput, hcount, readReference_tokens]
    rfl

theorem readKey_tokens (o : OrderBy) (rest : List Token) :
    readKey (o.tokens ++ rest) = some (o.key, rest) := by
  obtain ⟨column, caseInsensitive, direction⟩ := o
  rw [OrderBy.tokens, List.append_assoc, List.append_assoc, readKey, readReference_tokens]
  cases caseInsensitive <;> cases direction <;> rfl

theorem readOrder_tokens (order : List OrderBy) {rest : List Token}
    (more : expect (.symbol ",") rest = none) (other : expect (.word "ORDER") rest = none) :
    readOrder (orderTokens order ++ rest) = some (order.map OrderBy.key, rest) := by
  cases order with
  | nil => simp [readOrder, orderTokens, other]
  | cons o others =>
    exact readList_tokens more (List.cons_ne_nil o others) (fun o' _ us _ => readKey_tokens o' us)
      rfl

theorem readWindow_tokens (window : Option Window) :
    readWindow ((window.map Window.tokens).getD []) = some (window, []) := by
  cases window <;> rfl

/-- The text of a rendered statement is read as the statement it stands for. -/
theorem ofText?_select {q : Select} (h : IsExpr q.condition.tokens q.condition.expr) :
    ofText? q.text = some q.statement := by
  have htokens : tokens q.text = some q.tokens := q.reads
  have hcondition := h (4 * (q.condition.tokens ++ q.tailTokens).length + 4) q.tailTokens
    (by rw [List.length_append]; omega) (tail_ends q).1
  have horder : readOrder q.tailTokens =
      some (q.order.map OrderBy.key, (q.window.map Window.tokens).getD []) := by
    rw [Select.tailTokens]
    cases q.window with
    | none => exact readOrder_tokens q.order rfl rfl
    | some w => exact readOrder_tokens q.order rfl rfl
  rw [Select.tokens_eq, Select.headTokens] at htokens
  simp only [List.append_assoc, List.cons_append, List.nil_append] at htokens
  simp only [ofText?, htokens, Option.bind_eq_bind, Option.bind_some, expect_self,
    readOutput_tokens, readSource_tokens, hcondition, horder, readWindow_tokens,
    List.isEmpty_nil, if_true]
  rfl

example : ofText? ("SELECT t0.\"id\" FROM \"book\" AS t0 WHERE 1 " ++
      "ORDER BY t0.\"title\" COLLATE NOCASE DESC, t0.\"id\" ASC LIMIT ?1 OFFSET ?2") =
    some ⟨.column ⟨"t0", "id"⟩, ⟨"book", "t0"⟩, .literal true,
      [⟨⟨"t0", "title"⟩, true, .desc⟩, ⟨⟨"t0", "id"⟩, false, .asc⟩], some ⟨1, 2⟩⟩ := by
  decide +kernel

end Statement

/-! ### What a text settles -/

theorem ColumnName.reference_injective {c d : ColumnName} (h : c.reference = d.reference) :
    c = d := by
  obtain ⟨row, column⟩ := c
  obtain ⟨row', column'⟩ := d
  obtain ⟨hrow, hcolumn⟩ := Reference.mk.inj h
  cases RowName.text_injective hrow
  cases hcolumn
  rfl

theorem OrderBy.key_injective {o o' : OrderBy} (h : o.key = o'.key) : o = o' := by
  obtain ⟨column, caseInsensitive, direction⟩ := o
  obtain ⟨column', caseInsensitive', direction'⟩ := o'
  obtain ⟨hcolumn, hcase, hdirection⟩ := Statement.Key.mk.inj h
  cases ColumnName.reference_injective hcolumn
  cases hcase
  cases hdirection
  rfl

theorem Output.toStatement_injective {o o' : Output} (h : o.toStatement = o'.toStatement) :
    o = o' := by
  cases o with
  | count =>
    cases o' with
    | count => rfl
    | column d => cases h
  | column c =>
    cases o' with
    | count => cases h
    | column d => rw [ColumnName.reference_injective (Statement.Output.column.inj h)]

theorem TableRef.toSource_injective {t t' : TableRef} (h : t.toSource = t'.toSource) : t = t' := by
  obtain ⟨table, row⟩ := t
  obtain ⟨table', row'⟩ := t'
  obtain ⟨htable, hrow⟩ := Source.mk.inj h
  cases RowName.text_injective hrow
  cases htable
  rfl

/-- Two statements of one text return the same of one table, in the same order and window, on
conditions that are read alike. -/
theorem Select.eq_of_text {q q' : Select} (h : Expr.IsExpr q.condition.tokens q.condition.expr)
    (h' : Expr.IsExpr q'.condition.tokens q'.condition.expr) (same : q.text = q'.text) :
    q.output = q'.output ∧ q.source = q'.source ∧ q.condition.expr = q'.condition.expr ∧
      q.order = q'.order ∧ q.window = q'.window := by
  have hread := Statement.ofText?_select h
  rw [same, Statement.ofText?_select h'] at hread
  obtain ⟨houtput, hsource, hcondition, horder, hwindow⟩ :=
    Statement.mk.inj (Option.some.inj hread).symm
  exact ⟨Output.toStatement_injective houtput, TableRef.toSource_injective hsource, hcondition,
    List.map_injective_iff.mpr (fun _ _ => OrderBy.key_injective) horder, hwindow⟩

/-- Both texts of a well-formed plan are read to their ends: the keys of the rows of its root on a
condition, by the keys of its order and in the window of its page, and the number of the rows on the
same condition. -/
theorem wellFormed_statements {registry : Registry} {root : Entity} {plan : Plan}
    (wf : plan.WellFormed registry root) :
    ∃ f g e, select registry plan = .ok f ∧ count registry plan = .ok g ∧
      Statement.ofText? f.text = some ⟨.column ⟨"t0", root.primaryKey⟩, ⟨root.table, "t0"⟩, e,
        plan.orderBy.map fun t => ⟨⟨"t0", t.column.name⟩, t.caseInsensitive, t.direction⟩,
        plan.page.map fun _ =>
          ⟨(operandValues plan).length + 1, (operandValues plan).length + 2⟩⟩ ∧
      Statement.ofText? g.text = some ⟨.count, ⟨root.table, "t0"⟩, e, [], none⟩ := by
  obtain ⟨s, c, -, fits, hc, hselect, hcount⟩ := wellFormed_rendered wf
  have hexpr := Expr.isExpr_condition hc wf.predicate
  have hroot : rootRow.text = "t0" := by decide
  refine ⟨_, _, c.expr, hselect, hcount, ?_, ?_⟩
  · refine (Statement.ofText?_select hexpr).trans ?_
    simp only [Select.statement, selectStatement, Output.toStatement, TableRef.toSource,
      ColumnName.reference, List.map_map, hroot]
    rfl
  · refine (Statement.ofText?_select hexpr).trans ?_
    simp only [Select.statement, countStatement, Output.toStatement, TableRef.toSource, hroot,
      List.map_nil]

end FieldSearch.Sql
