import FieldSearch.Proofs.Sql.Lexing
import FieldSearch.Proofs.Sql.Meaning

/-!
# Placeholders and parameters

The placeholders in the text of a statement count from 1 on, in the order in which they stand there,
up to the number of its parameters. Each of them stands behind the column whose operand is the
parameter of that number. The numbers of the rows to return and to skip come last.
-/

namespace FieldSearch

open Sql

namespace Predicate

mutual

/-- The columns that the predicate compares, each with the value, from left to right. -/
def uses : Predicate → List (Column × Scalar)
  | compare c _ v => [(c, v)]
  | isIn c vs => vs.map (c, ·)
  | isNull _ => []
  | isNotNull _ => []
  | exist _ inner => inner.uses
  | related _ _ => []
  | not inner => inner.uses
  | and parts => allUses parts
  | or parts => allUses parts

def allUses : List Predicate → List (Column × Scalar)
  | [] => []
  | part :: rest => part.uses ++ allUses rest

end

end Predicate

namespace Sql.Condition

mutual

/-- The numbers of the parameters that the condition mentions, from left to right. -/
def placeholders : Condition → List Nat
  | compare _ _ n => [n]
  | isIn _ ns => ns
  | isNull _ => []
  | isNotNull _ => []
  | existsWith _ inner => inner.placeholders
  | existsAny _ => []
  | existsNone _ => []
  | not inner => inner.placeholders
  | and parts => allPlaceholders parts
  | or parts => allPlaceholders parts

def allPlaceholders : List Condition → List Nat
  | [] => []
  | part :: rest => part.placeholders ++ allPlaceholders rest

end

@[simp]
theorem allPlaceholders_eq (parts : List Condition) :
    allPlaceholders parts = parts.flatMap placeholders := by
  induction parts with
  | nil => rfl
  | cons part rest ih => rw [allPlaceholders, ih, List.flatMap_cons]

mutual

/-- The columns that the condition compares, each with the placeholder behind it. -/
def slots : Condition → List (ColumnName × Nat)
  | compare c _ n => [(c, n)]
  | isIn c ns => ns.map (c, ·)
  | isNull _ => []
  | isNotNull _ => []
  | existsWith _ inner => inner.slots
  | existsAny _ => []
  | existsNone _ => []
  | not inner => inner.slots
  | and parts => allSlots parts
  | or parts => allSlots parts

def allSlots : List Condition → List (ColumnName × Nat)
  | [] => []
  | part :: rest => part.slots ++ allSlots rest

end

end Sql.Condition

/-! ### The numbers of the operands -/

/-- The placeholders of rendered parts count on from one part to the next. -/
theorem Sql.Numbered.placeholders {next : Nat} {parts : List Predicate} {cs : List Condition}
    (h : Numbered (fun next p c => c.placeholders = List.range' next p.operands.length)
      next parts cs) :
    cs.flatMap Condition.placeholders =
      List.range' next (Predicate.allOperands parts).length := by
  induction h with
  | nil => rfl
  | cons hc _ ih =>
    rw [List.flatMap_cons, hc, ih, Predicate.allOperands, List.length_append,
      ← List.range'_append, Nat.one_mul]

/-- A rendered condition has one placeholder for each operand, in their order. -/
theorem Sql.condition_placeholders {s : Scope} {p : Predicate} {next : Nat} {c : Condition}
    (h : condition s next p = .ok c) : c.placeholders = List.range' next p.operands.length := by
  refine condition_induct
    (motive := fun next p c => c.placeholders = List.range' next p.operands.length)
    ?compare ?isIn ?isNull ?isNotNull ?exist ?related ?not ?and ?or p h
  case compare => intros; rfl
  case isIn =>
    intro next column vs name _
    cases vs with
    | nil => rfl
    | cons v rest => rfl
  case isNull => intros; rfl
  case isNotNull => intros; rfl
  case exist => intro next o inner b c _ ih; exact ih
  case related =>
    intro next o present b _
    cases hj : b.relation.join <;> cases present <;> simp only [Binding.presence, hj] <;> rfl
  case not => intro next inner c ih; exact ih
  case and =>
    intro next parts cs hcs
    rw [Condition.placeholders, Condition.allPlaceholders_eq]
    exact hcs.placeholders
  case or =>
    intro next parts cs hcs
    rw [Condition.placeholders, Condition.allPlaceholders_eq]
    exact hcs.placeholders

namespace Sql

/-- The placeholder stands behind the column of the predicate, and its parameter is the value that
the predicate compares the column with. -/
def Serves (params : List Value) (use : Column × Scalar) (slot : ColumnName × Nat) : Prop :=
  slot.1 = ⟨.row use.1.occurrence, use.1.name⟩ ∧
    Store.operand params slot.2 = .ofScalar use.2

variable {params : List Value}

theorem serves_membership {c : Column} {name : ColumnName}
    (hname : name = ⟨.row c.occurrence, c.name⟩) {vs : List Scalar} {next : Nat}
    (supplies : Supplies params next vs) :
    List.Forall₂ (Serves params) (vs.map (c, ·))
      (membership name (List.range' next vs.length)).slots := by
  induction vs generalizing next with
  | nil => exact .nil
  | cons v rest ih =>
    rw [← List.singleton_append, supplies_append] at supplies
    obtain ⟨first, others⟩ := supplies
    have hfirst : Serves params (c, v) (name, next) := ⟨hname, first.single⟩
    -- an empty rest has a condition of another form, with no slots either
    have hslots : (membership name (List.range' (next + 1) rest.length)).slots =
        (List.range' (next + 1) rest.length).map (name, ·) := by
      cases rest <;> rfl
    have hrest := ih others
    rw [List.length_singleton, hslots] at hrest
    exact .cons hfirst hrest

theorem Numbered.serves {next : Nat} {parts : List Predicate} {cs : List Condition}
    (h : Numbered (fun next p c => Supplies params next p.operands →
      List.Forall₂ (Serves params) p.uses c.slots) next parts cs)
    (supplies : Supplies params next (Predicate.allOperands parts)) :
    List.Forall₂ (Serves params) (Predicate.allUses parts) (Condition.allSlots cs) := by
  induction h with
  | nil => exact .nil
  | cons hc _ ih =>
    rw [Predicate.allOperands, supplies_append] at supplies
    exact List.rel_append (hc supplies.1) (ih supplies.2)

/-- In a rendered condition every placeholder serves the value it was allotted for. -/
theorem condition_serves {s : Scope} {p : Predicate} {next : Nat} {c : Condition}
    (h : condition s next p = .ok c) (supplies : Supplies params next p.operands) :
    List.Forall₂ (Serves params) p.uses c.slots := by
  refine condition_induct (motive := fun next p c => Supplies params next p.operands →
    List.Forall₂ (Serves params) p.uses c.slots)
    ?compare ?isIn ?isNull ?isNotNull ?exist ?related ?not ?and ?or p h supplies
  case compare =>
    intro next column comparison v name hname supplies
    exact .cons ⟨Scope.column_eq hname, supplies.single⟩ .nil
  case isIn =>
    intro next column vs name hname supplies
    exact serves_membership (Scope.column_eq hname) supplies
  case isNull => intros; exact .nil
  case isNotNull => intros; exact .nil
  case exist => intro next o inner b c _ ih; exact ih
  case related =>
    intro next o present b _ _
    cases hj : b.relation.join <;> cases present <;> simp only [Binding.presence, hj] <;>
      exact .nil
  case not => intro next inner c ih; exact ih
  case and => intro next parts cs hcs; exact hcs.serves
  case or => intro next parts cs hcs; exact hcs.serves

/-! ### The numbers in the text -/

/-- The number of a placeholder. -/
def Token.number? : Token → Option Nat
  | placeholder n => some n
  | _ => none

/-- The numbers of the placeholders of a text, in the order in which they stand there. What stands
in quotes is no placeholder. -/
def numbers? (text : String) : Option (List Nat) := (tokens text).map (·.filterMap Token.number?)

theorem ColumnName.tokens_numbers (c : ColumnName) : c.tokens.filterMap Token.number? = [] := rfl

theorem Related.tokens_numbers (r : Related) : r.tokens.filterMap Token.number? = [] := by
  obtain ⟨source, join, inner, outer⟩ := r
  cases join <;> rfl

theorem Condition.partsTokens_numbers {separator : Token} (hsep : separator.number? = none)
    {parts : List Condition}
    (each : ∀ part ∈ parts, part.tokens.filterMap Token.number? = part.placeholders) :
    (listTokens separator (partsTokens parts)).filterMap Token.number? =
      allPlaceholders parts := by
  rw [listTokens_filterMap hsep, partsTokens_eq, allPlaceholders_eq, List.flatMap_map]
  refine List.flatMap_congr fun part hpart => ?_
  simpa [List.filterMap_cons, Token.number?] using each part hpart

theorem Condition.tokens_numbers (c : Condition) :
    c.tokens.filterMap Token.number? = c.placeholders := by
  induction c using Condition.induct with
  | compare column comparison n => cases comparison <;> rfl
  | isIn column ns =>
    have numbers : (listTokens (.symbol ",") (ns.map fun n => [.placeholder n])).filterMap
        Token.number? = ns := by
      rw [listTokens_filterMap rfl, List.flatMap_map]
      simp [Token.number?]
    rw [tokens, List.filterMap_append, List.filterMap_append, numbers]
    simp [ColumnName.tokens, List.filterMap_cons, Token.number?, placeholders]
  | isNull column => rfl
  | isNotNull column => rfl
  | existsWith rows inner ih =>
    simp [tokens, placeholders, List.filterMap_cons, Token.number?, rows.tokens_numbers, ih]
  | existsAny rows =>
    simp [tokens, placeholders, List.filterMap_cons, Token.number?, rows.tokens_numbers]
  | existsNone rows =>
    simp [tokens, placeholders, List.filterMap_cons, Token.number?, rows.tokens_numbers]
  | not inner ih => simp [tokens, placeholders, List.filterMap_cons, Token.number?, ih]
  | and parts ih =>
    cases parts with
    | nil => rfl
    | cons part rest => exact partsTokens_numbers rfl ih
  | or parts ih =>
    cases parts with
    | nil => rfl
    | cons part rest => exact partsTokens_numbers rfl ih

theorem OrderBy.tokens_numbers (o : OrderBy) : o.tokens.filterMap Token.number? = [] := by
  obtain ⟨column, insensitive, direction⟩ := o
  cases insensitive <;> cases direction <;> rfl

/-- The numbers in a statement are those of its condition, and then those of its window. -/
theorem Select.tokens_numbers (q : Select) :
    q.tokens.filterMap Token.number? =
      q.condition.placeholders ++ (q.window.map fun w => [w.limit, w.offset]).getD [] := by
  have horder : (orderTokens q.order).filterMap Token.number? = [] := by
    cases q.order with
    | nil => rfl
    | cons first rest =>
      rw [orderTokens, List.filterMap_append, listTokens_filterMap rfl, List.flatMap_map]
      · simp [List.filterMap_cons, Token.number?, OrderBy.tokens_numbers]
      · exact fun h => List.cons_ne_nil _ _ h
  have houtput : q.output.tokens.filterMap Token.number? = [] := by cases q.output <;> rfl
  have hwindow : ((q.window.map Window.tokens).getD []).filterMap Token.number? =
      (q.window.map fun w => [w.limit, w.offset]).getD [] := by
    cases q.window <;> rfl
  simp [tokens, List.filterMap_cons, Token.number?, q.condition.tokens_numbers, horder, houtput,
    hwindow, TableRef.tokens]

/-! ### The statements of a plan -/

/-- The statement has a placeholder for each of its parameters, in their order: for the values that
the predicate compares with, behind the columns that it compares with them, and for some more. -/
structure Fragment.Aligned (f : Fragment) (p : Predicate) (more : List Value) : Prop where
  numbers : numbers? f.text = some (List.range' 1 f.params.length)
  params : f.params = p.operands.map Value.ofScalar ++ more
  slots : List.Forall₂ (Serves f.params) p.uses f.select.condition.slots

section Statements

variable {registry : Registry} {plan : Plan}

theorem aligned_of_condition {s : Scope} {p : Predicate} {c : Condition}
    (h : condition s 1 p = .ok c) {f : Fragment} (hcondition : f.select.condition = c)
    {more : List Value} (hparams : f.params = p.operands.map Value.ofScalar ++ more)
    (hwindow : (f.select.window.map fun w => [w.limit, w.offset]).getD [] =
      List.range' (1 + p.operands.length) more.length) : f.Aligned p more := by
  refine ⟨?numbers, hparams, ?slots⟩
  case numbers =>
    have hread : tokens f.text = some f.select.tokens := f.select.reads
    rw [numbers?, hread, Option.map_some, Select.tokens_numbers, hcondition,
      condition_placeholders h, hwindow, hparams, List.length_append, List.length_map,
      ← List.range'_append, Nat.one_mul]
  case slots =>
    rw [hcondition, hparams]
    exact condition_serves h (supplies_operands p.operands more)

theorem select_aligned {f : Fragment} (h : select registry plan = .ok f) :
    f.Aligned plan.predicate (windowValues plan.page) := by
  obtain ⟨s, c, order, -, hc, -, rfl⟩ := select_eq_ok.mp h
  apply aligned_of_condition hc rfl rfl
  cases hpage : plan.page with
  | none => simp [statementOf, windowValues, hpage]
  | some page =>
    have hlength : (operandValues plan).length = plan.predicate.operands.length := by
      rw [operandValues, List.length_map]
    simp only [statementOf, windowValues, hpage, hlength, Option.map_some, Option.getD_some,
      List.length_cons, List.length_nil, List.range'_succ, List.range'_zero, List.cons.injEq,
      and_true]
    omega

theorem count_aligned {g : Fragment} (h : count registry plan = .ok g) :
    g.Aligned plan.predicate [] := by
  obtain ⟨s, c, -, hc, rfl⟩ := count_eq_ok.mp h
  exact aligned_of_condition hc rfl (List.append_nil _).symm rfl

/-- Where the rows of a plan can be returned they can be counted. -/
theorem exists_count {f : Fragment} (h : select registry plan = .ok f) :
    ∃ g, count registry plan = .ok g := by
  obtain ⟨s, c, -, hs, hc, -, -⟩ := select_eq_ok.mp h
  exact ⟨_, count_eq_ok.mpr ⟨s, c, hs, hc, rfl⟩⟩

section Keys

variable {s : Scope} {c : Condition} (hs : Scope.ofPlan registry plan = .ok s)
  (hc : condition s 1 plan.predicate = .ok c) (terms : List OrderTerm)

include hs hc

/-- With its scope and its condition rendered, a plan depends on the terms of its order alone. -/
theorem select_terms : select registry { plan with orderBy := terms } =
    statementOf s { plan with orderBy := terms } c <$> terms.mapM s.orderTerm := by
  have hscope : Scope.ofPlan registry { plan with orderBy := terms } = .ok s := hs
  rw [select_eq, hscope]
  simp only [hc, bind, Except.bind]
  cases terms.mapM s.orderTerm <;> rfl

theorem select_terms_ok : (∃ f, select registry { plan with orderBy := terms } = .ok f) ↔
    ∀ t ∈ terms, ∃ o, s.orderTerm t = .ok o := by
  rw [select_terms hs hc]
  constructor
  · rintro ⟨f, h⟩ t ht
    obtain ⟨order, horder, -⟩ := map_eq_ok.mp h
    obtain ⟨o, -, ho⟩ := forall₂_mem_left (mapM_eq_ok.mp horder) ht
    exact ⟨o, ho⟩
  · intro each
    obtain ⟨order, horder⟩ := exists_mapM_eq_ok each
    exact ⟨_, map_eq_ok.mpr ⟨order, horder, rfl⟩⟩

end Keys

/-- A plan whose rows can be counted but not returned has a key that is at fault: the keys before it
can be rendered, and it fails alone as it fails in the plan. -/
theorem exists_faulty_key {g : Fragment} (h : count registry plan = .ok g) {e : RenderError}
    (herror : select registry plan = .error e) :
    ∃ before key after, plan.orderBy = before ++ key :: after ∧
      (∃ f, select registry { plan with orderBy := before } = .ok f) ∧
      select registry { plan with orderBy := [key] } = .error e := by
  obtain ⟨s, c, hs, hc, -⟩ := count_eq_ok.mp h
  have fails := herror
  rw [select_terms hs hc plan.orderBy, map_eq_error, mapM_eq_error] at fails
  obtain ⟨before, key, after, split, passed, failed⟩ := fails
  refine ⟨before, key, after, split, (select_terms_ok hs hc before).mpr passed, ?_⟩
  rw [select_terms hs hc [key], map_eq_error, mapM_eq_error]
  exact ⟨[], key, [], rfl, by simp, failed⟩

end Statements

/-- In the text of a statement the placeholders are numbered from 1 on without a gap, and its
parameters are the values that the predicate compares with, in the order of the predicate, then the
rows to return and to skip if the plan has a page. The statement that counts the rows has the same
parameters without those two. If only that one can be rendered, a key of the order is to blame. -/
theorem placeholders_match_parameters (registry : Registry) (plan : Plan) :
    (∀ f, select registry plan = .ok f →
      f.Aligned plan.predicate (windowValues plan.page) ∧
      ∃ g, count registry plan = .ok g ∧ g.Aligned plan.predicate []) ∧
    ∀ g e, count registry plan = .ok g → select registry plan = .error e →
      ∃ before key after, plan.orderBy = before ++ key :: after ∧
        (∃ f, select registry { plan with orderBy := before } = .ok f) ∧
        select registry { plan with orderBy := [key] } = .error e := by
  constructor
  · intro f h
    obtain ⟨g, hg⟩ := exists_count h
    exact ⟨select_aligned h, g, hg, count_aligned hg⟩
  · intro g e hcount herror
    exact exists_faulty_key hcount herror

namespace Example

def secondPage : Plan := { plan with page := some ⟨2, 10⟩ }

/-- The second key is a column of no row of the plan. -/
def astray : Plan :=
  { plan with orderBy := [⟨⟨.root, "title"⟩, .asc, true⟩, ⟨⟨⟨7⟩, "id"⟩, .asc, false⟩] }

end Example

theorem sample_parameters_match :
    (∃ f, select Example.schema Example.secondPage = .ok f ∧
      numbers? f.text = some [1, 2, 3, 4, 5, 6] ∧
      f.params = [.integer 1, .integer 2, .integer 1900, .integer 100, .integer 10, .integer 10] ∧
      ∃ g, count Example.schema Example.secondPage = .ok g ∧ numbers? g.text = some [1, 2, 3, 4]) ∧
    ∃ before key after, Example.astray.orderBy = before ++ key :: after ∧
      (∃ f, select Example.schema { Example.astray with orderBy := before } = .ok f) ∧
      select Example.schema { Example.astray with orderBy := [key] } =
        .error (.unknownOccurrence ⟨7⟩) := by
  obtain ⟨f, hf⟩ : ∃ f, select Example.schema Example.secondPage = .ok f := ⟨_, rfl⟩
  obtain ⟨g, hg⟩ : ∃ g, count Example.schema Example.astray = .ok g := ⟨_, rfl⟩
  obtain ⟨aligned, h, hh, counted⟩ :=
    (placeholders_match_parameters Example.schema Example.secondPage).1 f hf
  have faulty := (placeholders_match_parameters Example.schema Example.astray).2 g
    (.unknownOccurrence ⟨7⟩) hg rfl
  have hnumbers := aligned.numbers
  have hcounted := counted.numbers
  rw [aligned.params] at hnumbers
  rw [counted.params] at hcounted
  exact ⟨⟨f, hf, hnumbers, aligned.params, h, hh, hcounted⟩, faulty⟩

end Sql

end FieldSearch
