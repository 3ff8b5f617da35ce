import FieldSearch.Proofs.Sql.Grammar
import FieldSearch.Proofs.Sql.Rendering

/-!
# Reading a rendered condition

The tokens of a rendered condition are read as the expression that the condition stands for: every
part is in parentheses wherever it could be torn apart, so the grammar finds the parts again.
-/

namespace FieldSearch.Sql

def ColumnName.reference (c : ColumnName) : Reference := ⟨c.row.text, c.column⟩

def TableRef.toSource (t : TableRef) : Source := ⟨t.table, t.row.text⟩

namespace Related

def sources (r : Related) : List Source :=
  r.source.toSource :: (r.join.map (·.source.toSource)).toList

/-- Some of the rows fulfils a condition. -/
def expr (r : Related) (condition : Expr) : Expr :=
  .exist r.sources (r.join.elim condition fun j =>
    .and (.equal j.left.reference j.right.reference) condition)

/-- The columns that relate the rows to an outer one are equal. -/
def link (r : Related) : Expr := .equal r.inner.reference r.outer.reference

end Related

mutual

/-- The expression that a condition stands for. -/
def Condition.expr : Condition → Expr
  | compare c comparison n => .compare c.reference comparison n
  | isIn c ns => .isIn c.reference ns
  | isNull c => .isNull c.reference
  | isNotNull c => .isNotNull c.reference
  | existsWith rows inner => rows.expr (.and rows.link (expr inner))
  | existsAny rows => rows.expr rows.link
  | existsNone rows => .not (rows.expr rows.link)
  | not inner => .not (expr inner)
  | and [] => .literal true
  | and (part :: rest) => (exprs rest).foldl .and (expr part)
  | or [] => .literal false
  | or (part :: rest) => (exprs rest).foldl .or (expr part)

def Condition.exprs : List Condition → List Expr
  | [] => []
  | part :: rest => expr part :: exprs rest

end

@[simp]
theorem Condition.exprs_eq (parts : List Condition) : exprs parts = parts.map expr := by
  induction parts with
  | nil => rfl
  | cons part rest ih => rw [exprs, ih, List.map_cons]

namespace Expr

/-! ### Reading on each level of the grammar -/

@[simp]
theorem expect_self (t : Token) (rest : List Token) : expect t (t :: rest) = some rest := by
  simp [expect]

theorem expect_ne {t u : Token} (h : u ≠ t) (rest : List Token) : expect t (u :: rest) = none := by
  simp [expect, h]

/-- Nothing follows that would go on with a conjunction or disjunction. -/
def Stops (rest : List Token) : Prop :=
  expect (.word "AND") rest = none ∧ expect (.word "OR") rest = none

theorem stops_parenthesis (rest : List Token) : Stops (.symbol ")" :: rest) :=
  ⟨expect_ne (by decide) rest, expect_ne (by decide) rest⟩

theorem stops_where (rest : List Token) : Stops (.word "WHERE" :: rest) :=
  ⟨expect_ne (by decide) rest, expect_ne (by decide) rest⟩

-- Four units of fuel for a token are one for each level of the grammar between two parentheses.

/-- The tokens are a test, whatever follows. -/
def IsTest (ts : List Token) (e : Expr) : Prop :=
  ∀ fuel rest, 4 * ts.length ≤ fuel → readTest fuel (ts ++ rest) = some (e, rest)

def IsNegation (ts : List Token) (e : Expr) : Prop :=
  ∀ fuel rest, 4 * ts.length + 1 ≤ fuel → readNegation fuel (ts ++ rest) = some (e, rest)

def IsConjunction (ts : List Token) (e : Expr) : Prop :=
  ∀ fuel rest, 4 * ts.length + 2 ≤ fuel → expect (.word "AND") rest = none →
    readConjunction fuel (ts ++ rest) = some (e, rest)

def IsExpr (ts : List Token) (e : Expr) : Prop :=
  ∀ fuel rest, 4 * ts.length + 4 ≤ fuel → Stops rest → readExpr fuel (ts ++ rest) = some (e, rest)

variable {ts : List Token} {e : Expr}

theorem IsTest.negation {t : Token} (h : IsTest (t :: ts) e) (ht : t ≠ .word "NOT") :
    IsNegation (t :: ts) e := by
  intro fuel rest hfuel
  obtain ⟨fuel, rfl⟩ : ∃ k, fuel = k + 1 := ⟨fuel - 1, by omega⟩
  rw [readNegation, List.cons_append, expect_ne ht]
  exact h fuel rest (by omega)

theorem IsNegation.not (h : IsNegation ts e) : IsNegation (.word "NOT" :: ts) (.not e) := by
  intro fuel rest hfuel
  rw [List.length_cons] at hfuel
  obtain ⟨fuel, rfl⟩ : ∃ k, fuel = k + 1 := ⟨fuel - 1, by omega⟩
  simp [readNegation, h fuel rest (by omega)]

/-- Further parts of a conjunction are read one by one. -/
theorem readConjuncts_parts {parts : List (List Token)} {es : List Expr}
    (h : List.Forall₂ IsNegation parts es) (left : Expr) (fuel : Nat) {rest : List Token}
    (hfuel : 4 * (parts.flatMap (.word "AND" :: ·)).length + 1 ≤ fuel)
    (hrest : expect (.word "AND") rest = none) :
    readConjuncts fuel left (parts.flatMap (.word "AND" :: ·) ++ rest) =
      some (es.foldl .and left, rest) := by
  induction h generalizing left fuel with
  | nil =>
    obtain ⟨fuel, rfl⟩ : ∃ k, fuel = k + 1 := ⟨fuel - 1, by omega⟩
    simp [readConjuncts, hrest]
  | @cons part e parts es hpart _ ih =>
    simp only [List.flatMap_cons, List.length_append, List.length_cons] at hfuel
    obtain ⟨fuel, rfl⟩ : ∃ k, fuel = k + 1 := ⟨fuel - 1, by omega⟩
    have hone := hpart fuel (parts.flatMap (.word "AND" :: ·) ++ rest) (by omega)
    have hothers := ih (left.and e) fuel (by omega)
    simp [readConjuncts, hone, hothers]

theorem readDisjuncts_parts {parts : List (List Token)} {es : List Expr}
    (h : List.Forall₂ IsConjunction parts es) (left : Expr) (fuel : Nat) {rest : List Token}
    (hfuel : 4 * (parts.flatMap (.word "OR" :: ·)).length + 1 ≤ fuel) (hrest : Stops rest) :
    readDisjuncts fuel left (parts.flatMap (.word "OR" :: ·) ++ rest) =
      some (es.foldl .or left, rest) := by
  induction h generalizing left fuel with
  | nil =>
    obtain ⟨fuel, rfl⟩ : ∃ k, fuel = k + 1 := ⟨fuel - 1, by omega⟩
    simp [readDisjuncts, hrest.2]
  | @cons part e parts es hpart _ ih =>
    simp only [List.flatMap_cons, List.length_append, List.length_cons] at hfuel
    obtain ⟨fuel, rfl⟩ : ∃ k, fuel = k + 1 := ⟨fuel - 1, by omega⟩
    have hends : expect (.word "AND") (parts.flatMap (.word "OR" :: ·) ++ rest) = none := by
      cases parts with
      | nil => exact hrest.1
      | cons part others => exact expect_ne (by decide) _
    have hone := hpart fuel (parts.flatMap (.word "OR" :: ·) ++ rest) (by omega) hends
    have hothers := ih (left.or e) fuel (by omega)
    simp [readDisjuncts, hone, hothers]

theorem listTokens_cons (separator : Token) (part : List Token) (parts : List (List Token)) :
    listTokens separator (part :: parts) = part ++ parts.flatMap (separator :: ·) := by
  induction parts generalizing part with
  | nil => simp [listTokens]
  | cons next others ih => rw [listTokens_cons_cons, ih next, List.flatMap_cons, List.cons_append]

theorem length_listTokens (separator : Token) (part : List Token) (parts : List (List Token)) :
    parts.length ≤ (listTokens separator (part :: parts)).length := by
  rw [listTokens_cons, List.length_append]
  induction parts with
  | nil => exact Nat.zero_le _
  | cons next others ih =>
    simp only [List.flatMap_cons, List.length_append, List.length_cons] at ih ⊢
    omega

section Lists

variable {α β : Type} {item : List Token → Option (α × List Token)} {itemTokens : β → List Token}
  {value : β → α} {rest : List Token} (ends : expect (.symbol ",") rest = none)

include ends

theorem readList_fuel (b : β) (bs : List β) {fuel : Nat}
    (h : ∀ b' ∈ b :: bs, ∀ us, us = rest ∨ us.head? = some (.symbol ",") →
      item (itemTokens b' ++ us) = some (value b', us)) (hfuel : bs.length < fuel) :
    readList item fuel (listTokens (.symbol ",") ((b :: bs).map itemTokens) ++ rest) =
      some ((b :: bs).map value, rest) := by
  induction bs generalizing b fuel with
  | nil =>
    obtain ⟨fuel, rfl⟩ : ∃ k, fuel = k + 1 := ⟨fuel - 1, by omega⟩
    have hone := h b List.mem_cons_self rest (.inl rfl)
    simp [readList, listTokens, hone, ends]
  | cons c others ih =>
    rw [List.length_cons] at hfuel
    obtain ⟨fuel, rfl⟩ : ∃ k, fuel = k + 1 := ⟨fuel - 1, by omega⟩
    have hothers := ih c (fun b' hb' => h b' (List.mem_cons_of_mem b hb'))
      (show others.length < fuel by omega)
    have hone := h b List.mem_cons_self
      (.symbol "," :: (listTokens (.symbol ",") ((c :: others).map itemTokens) ++ rest)) (.inr rfl)
    rw [List.map_cons] at hothers hone
    rw [List.map_cons, List.map_cons, listTokens_cons_cons, List.append_assoc, List.cons_append,
      readList, hone]
    simp only [Option.bind_eq_bind, Option.bind_some, expect_self, hothers]
    rfl

/-- Items are read one by one if each of them is, whatever else of the list follows it. -/
theorem readList_tokens {bs : List β} (items : bs ≠ [])
    (h : ∀ b ∈ bs, ∀ us, us = rest ∨ us.head? = some (.symbol ",") →
      item (itemTokens b ++ us) = some (value b, us)) {ts : List Token}
    (hts : ts = listTokens (.symbol ",") (bs.map itemTokens) ++ rest) :
    readList item (ts.length + 1) ts = some (bs.map value, rest) := by
  obtain ⟨b, others, rfl⟩ := List.exists_cons_of_ne_nil items
  have hlength := length_listTokens (.symbol ",") (itemTokens b) (others.map itemTokens)
  rw [List.length_map, ← List.map_cons] at hlength
  rw [hts]
  refine readList_fuel ends b others h ?_
  rw [List.length_append]
  omega

end Lists

/-- A sequence of negations is a conjunction. -/
theorem conjunction_of_negations {part : List Token} {parts : List (List Token)} {es : List Expr}
    (hpart : IsNegation part e) (h : List.Forall₂ IsNegation parts es) :
    IsConjunction (listTokens (.word "AND") (part :: parts)) (es.foldl .and e) := by
  intro fuel rest hfuel hrest
  rw [listTokens_cons, List.length_append] at hfuel
  obtain ⟨fuel, rfl⟩ : ∃ k, fuel = k + 1 := ⟨fuel - 1, by omega⟩
  have hone := hpart fuel (parts.flatMap (.word "AND" :: ·) ++ rest) (by omega)
  have hothers := readConjuncts_parts h e fuel (by omega) hrest
  rw [listTokens_cons, List.append_assoc, readConjunction, hone]
  exact hothers

/-- A sequence of conjunctions is an expression. -/
theorem expr_of_conjunctions {part : List Token} {parts : List (List Token)} {es : List Expr}
    (hpart : IsConjunction part e) (h : List.Forall₂ IsConjunction parts es) :
    IsExpr (listTokens (.word "OR") (part :: parts)) (es.foldl .or e) := by
  intro fuel rest hfuel hrest
  rw [listTokens_cons, List.length_append] at hfuel
  obtain ⟨fuel, rfl⟩ : ∃ k, fuel = k + 1 := ⟨fuel - 1, by omega⟩
  have hends : expect (.word "AND") (parts.flatMap (.word "OR" :: ·) ++ rest) = none := by
    cases parts with
    | nil => exact hrest.1
    | cons part others => exact expect_ne (by decide) _
  have hone := hpart fuel (parts.flatMap (.word "OR" :: ·) ++ rest) (by omega) hends
  have hothers := readDisjuncts_parts h e fuel (by omega) hrest
  rw [listTokens_cons, List.append_assoc, readExpr, hone]
  exact hothers

theorem IsNegation.conjunction (h : IsNegation ts e) : IsConjunction ts e := by
  simpa [listTokens] using conjunction_of_negations h .nil

theorem IsConjunction.expr (h : IsConjunction ts e) : IsExpr ts e := by
  simpa [listTokens] using expr_of_conjunctions h .nil

theorem IsExpr.parenthesized (h : IsExpr ts e) :
    IsTest ([.symbol "("] ++ ts ++ [.symbol ")"]) e := by
  intro fuel rest hfuel
  simp only [List.length_append, List.length_singleton] at hfuel
  obtain ⟨fuel, rfl⟩ : ∃ k, fuel = k + 1 := ⟨fuel - 1, by omega⟩
  have hinner := h fuel (.symbol ")" :: rest) (by omega) (stops_parenthesis rest)
  simp [readTest, hinner]

theorem IsExpr.part (h : IsExpr ts e) : IsNegation ([.symbol "("] ++ ts ++ [.symbol ")"]) e :=
  h.parenthesized.negation (by decide)

/-! ### Tests of columns -/

theorem readReference_tokens (c : ColumnName) (rest : List Token) :
    readReference (c.tokens ++ rest) = some (c.reference, rest) := rfl

theorem readSource_tokens (t : TableRef) (rest : List Token) :
    readSource (t.tokens ++ rest) = some (t.toSource, rest) := rfl

theorem readPlaceholders_tokens (n : Nat) (ns : List Nat) (rest : List Token) :
    readPlaceholders (listTokens (.symbol ",") ((n :: ns).map fun n => [.placeholder n]) ++
      .symbol ")" :: rest) = some (n :: ns, rest) := by
  induction ns generalizing n with
  | nil => rfl
  | cons m ns ih =>
    have h := ih m
    rw [List.map_cons] at h
    rw [List.map_cons, List.map_cons, listTokens_cons_cons, List.singleton_append,
      List.cons_append, List.cons_append, readPlaceholders, h]
    rfl

theorem isTest_column {c : ColumnName}
    (h : ∀ rest, readTail c.reference (ts ++ rest) = some (e, rest)) :
    IsTest (c.tokens ++ ts) e := by
  intro fuel rest hfuel
  simp only [ColumnName.tokens, List.length_append, List.length_cons, List.length_nil] at hfuel
  obtain ⟨fuel, rfl⟩ : ∃ k, fuel = k + 1 := ⟨fuel - 1, by omega⟩
  have hzero := c.row.text_ne "0" (by decide)
  have hone := c.row.text_ne "1" (by decide)
  have hexists := c.row.text_ne "EXISTS" (by decide)
  have htail := h rest
  have hread := readReference_tokens c (ts ++ rest)
  simp only [ColumnName.tokens, List.cons_append, List.nil_append] at hread ⊢
  simp only [readTest, hzero, hone, hexists, if_false, hread, Option.bind_eq_bind,
    Option.bind_some, htail]

theorem isNegation_column {c : ColumnName}
    (h : ∀ rest, readTail c.reference (ts ++ rest) = some (e, rest)) :
    IsNegation (c.tokens ++ ts) e := by
  refine IsTest.negation (isTest_column h) ?_
  intro heq
  exact c.row.text_ne "NOT" (by decide) (Token.word.inj heq)

theorem isNegation_compare (c : ColumnName) {comparison : Comparison} (h : comparison ≠ .isIn)
    (n : Nat) :
    IsNegation (Condition.compare c comparison n).tokens (.compare c.reference comparison n) := by
  refine isNegation_column fun rest => ?_
  cases comparison with
  | isIn => exact absurd rfl h
  | _ => rfl

theorem isNegation_equal (c d : ColumnName) :
    IsNegation (c.tokens ++ [.symbol "="] ++ d.tokens) (.equal c.reference d.reference) := by
  rw [List.append_assoc]
  exact isNegation_column fun rest => rfl

/-! ### Statements within a condition -/

theorem readJoins_none {fuel : Nat} (hfuel : 1 ≤ fuel) (rest : List Token) :
    readJoins fuel (.word "WHERE" :: rest) = some ([], .word "WHERE" :: rest) := by
  obtain ⟨fuel, rfl⟩ : ∃ k, fuel = k + 1 := ⟨fuel - 1, by omega⟩
  simp [readJoins, expect_ne]

theorem readJoins_tokens (join : Option Join) {fuel : Nat} (rest : List Token)
    (hfuel : 4 * ((join.map Join.tokens).getD []).length + 1 ≤ fuel) :
    readJoins fuel ((join.map Join.tokens).getD [] ++ .word "WHERE" :: rest) =
      some ((join.map fun j => (j.source.toSource,
        Expr.equal j.left.reference j.right.reference)).toList, .word "WHERE" :: rest) := by
  cases join with
  | none => exact readJoins_none hfuel rest
  | some j =>
    simp only [Option.map_some, Option.getD_some, Join.tokens, List.length_append,
      List.length_singleton] at hfuel
    obtain ⟨fuel, rfl⟩ : ∃ k, fuel = k + 1 := ⟨fuel - 1, by omega⟩
    have hon := (isNegation_equal j.left j.right).conjunction.expr fuel (.word "WHERE" :: rest)
      (by simp only [List.length_append, List.length_singleton]; omega) (stops_where rest)
    simp only [List.append_assoc, List.cons_append, List.nil_append] at hon
    simp only [Option.map_some, Option.getD_some, Join.tokens, List.append_assoc,
      List.singleton_append]
    simp [readJoins, readSource_tokens, hon, readJoins_none (show 1 ≤ fuel by omega)]

theorem readSelect_tokens (r : Related) {condition : Expr} {fuel : Nat} {rest : List Token}
    (hjoin : 4 * ((r.join.map Join.tokens).getD []).length + 1 ≤ fuel)
    (h : readExpr fuel ts = some (condition, rest)) :
    readSelect (fuel + 1) ([.word "SELECT", .word "1", .word "FROM"] ++ r.source.tokens ++
      (r.join.map Join.tokens).getD [] ++ .word "WHERE" :: ts) =
        some (r.expr condition, rest) := by
  have hjoins := readJoins_tokens r.join ts hjoin
  simp only [readSelect, List.cons_append, List.nil_append, List.append_assoc, expect_self,
    readSource_tokens, Option.bind_eq_bind, Option.bind_some, hjoins, h, Option.pure_def,
    Related.expr, Related.sources]
  cases r.join <;> rfl

/-- A statement in parentheses after `EXISTS` is a test. -/
theorem isTest_exists (r : Related) {condition : Expr} (us : List Token)
    (h : IsExpr (r.inner.tokens ++ [.symbol "="] ++ r.outer.tokens ++ us) condition) :
    IsTest ([.word "EXISTS", .symbol "("] ++ r.tokens ++ us ++ [.symbol ")"])
      (r.expr condition) := by
  intro fuel rest hfuel
  simp only [Related.tokens, List.length_append, List.length_cons, List.length_nil] at hfuel
  obtain ⟨fuel, rfl⟩ : ∃ k, fuel = k + 2 := ⟨fuel - 2, by omega⟩
  have hcondition := h fuel (.symbol ")" :: rest)
    (by simp only [List.length_append, List.length_cons, List.length_nil]; omega)
    (stops_parenthesis rest)
  have hselect := readSelect_tokens r (by omega) hcondition
  simp only [Related.tokens, List.append_assoc, List.cons_append, List.nil_append] at hselect ⊢
  simp [readTest, hselect]

theorem isNegation_exists (r : Related) {condition : Expr} (us : List Token)
    (h : IsExpr (r.inner.tokens ++ [.symbol "="] ++ r.outer.tokens ++ us) condition) :
    IsNegation ([.word "EXISTS", .symbol "("] ++ r.tokens ++ us ++ [.symbol ")"])
      (r.expr condition) :=
  (isTest_exists r us h).negation (by decide)

theorem isExpr_link (r : Related) :
    IsExpr (r.inner.tokens ++ [.symbol "="] ++ r.outer.tokens) r.link :=
  (isNegation_equal r.inner r.outer).conjunction.expr

theorem isNegation_existsAny (r : Related) :
    IsNegation (Condition.existsAny r).tokens (Condition.existsAny r).expr := by
  have h := isNegation_exists r [] (by simpa using isExpr_link r)
  simpa [Condition.tokens, Condition.expr] using h

theorem isNegation_existsNone (r : Related) :
    IsNegation (Condition.existsNone r).tokens (Condition.existsNone r).expr :=
  (isNegation_existsAny r).not

theorem isNegation_existsWith (r : Related) {c : Condition} (h : IsExpr c.tokens c.expr) :
    IsNegation (Condition.existsWith r c).tokens (Condition.existsWith r c).expr := by
  have hboth : IsExpr (r.inner.tokens ++ [.symbol "="] ++ r.outer.tokens ++
      ([.word "AND"] ++ ([.symbol "("] ++ c.tokens ++ [.symbol ")"]))) (.and r.link c.expr) := by
    have hlist := (conjunction_of_negations (isNegation_equal r.inner r.outer)
      (.cons h.part .nil)).expr
    simpa [listTokens_cons, Related.link] using hlist
  have h := isNegation_exists r _ hboth
  simpa [Condition.tokens, Condition.expr] using h

/-! ### Conditions -/

theorem isNegation_isIn (c : ColumnName) (n : Nat) (ns : List Nat) :
    IsNegation (Condition.isIn c (n :: ns)).tokens (.isIn c.reference (n :: ns)) := by
  simp only [Condition.tokens, List.append_assoc]
  refine isNegation_column fun rest => ?_
  have h := readPlaceholders_tokens n ns rest
  simp only [List.append_assoc, List.cons_append, List.nil_append]
  rw [readTail, h]
  rfl

theorem isExpr_literal {word : String} {b : Bool}
    (h : ∀ fuel rest, readTest (fuel + 1) (.word word :: rest) = some (.literal b, rest))
    (hword : word ≠ "NOT") : IsExpr [.word word] (.literal b) := by
  have htest : IsTest [.word word] (.literal b) := by
    intro fuel rest hfuel
    rw [List.length_singleton] at hfuel
    obtain ⟨fuel, rfl⟩ : ∃ k, fuel = k + 1 := ⟨fuel - 1, by omega⟩
    exact h fuel rest
  exact (htest.negation (by simpa using hword)).conjunction.expr

theorem forall₂_parts {parts : List Condition}
    (h : ∀ part ∈ parts, IsExpr part.tokens part.expr) :
    List.Forall₂ IsNegation (Condition.partsTokens parts) (Condition.exprs parts) := by
  rw [Condition.partsTokens_eq, Condition.exprs_eq, List.forall₂_map_left_iff,
    List.forall₂_map_right_iff, List.forall₂_same]
  exact fun part hpart => (h part hpart).part

theorem isExpr_and {parts : List Condition} (h : ∀ part ∈ parts, IsExpr part.tokens part.expr) :
    IsExpr (Condition.and parts).tokens (Condition.and parts).expr := by
  cases parts with
  | nil => exact isExpr_literal (fun _ _ => rfl) (by decide)
  | cons part rest =>
    rw [List.forall_mem_cons] at h
    exact (conjunction_of_negations h.1.part (forall₂_parts h.2)).expr

theorem isExpr_or {parts : List Condition} (h : ∀ part ∈ parts, IsExpr part.tokens part.expr) :
    IsExpr (Condition.or parts).tokens (Condition.or parts).expr := by
  cases parts with
  | nil => exact isExpr_literal (fun _ _ => rfl) (by decide)
  | cons part rest =>
    rw [List.forall_mem_cons] at h
    exact expr_of_conjunctions h.1.part.conjunction
      ((forall₂_parts h.2).imp fun _ _ part => part.conjunction)

variable {registry : Registry} {root : Entity} {joins : List JoinEntry} {s : Scope}

/-- A condition that is rendered from a well-formed predicate is read as what it stands for. -/
theorem isExpr_condition {p : Predicate} {next : Nat} {c : Condition}
    (h : condition s next p = .ok c) {inside : Option Occurrence}
    (wf : p.WellFormed registry root joins inside) : IsExpr c.tokens c.expr := by
  refine condition_induct (motive := fun _ p c => ∀ inside,
    p.WellFormed registry root joins inside → IsExpr c.tokens c.expr)
    ?compare ?isIn ?isNull ?isNotNull ?exist ?related ?not ?and ?or p h inside wf
  case compare =>
    intro next column comparison v name hname inside wf
    cases wf with
    | compare _ notIn => exact (isNegation_compare name notIn next).conjunction.expr
  case isIn =>
    intro next column vs name hname inside wf
    cases vs with
    | nil => exact isExpr_or (by simp)
    | cons v rest => exact (isNegation_isIn name _ _).conjunction.expr
  case isNull =>
    intro next column name hname inside wf
    exact (isNegation_column fun rest => rfl).conjunction.expr
  case isNotNull =>
    intro next column name hname inside wf
    exact (isNegation_column fun rest => rfl).conjunction.expr
  case exist =>
    intro next o inner b c hb ih inside wf
    cases wf with
    | exist _ hinner => exact (isNegation_existsWith _ (ih _ hinner)).conjunction.expr
  case related =>
    intro next o present b hb inside wf
    have hany := (isNegation_existsAny (b.related o)).conjunction.expr
    have hnone := (isNegation_existsNone (b.related o)).conjunction.expr
    -- only a foreign key is tested without a look at the target
    cases hj : b.relation.join with
    | foreignKey column =>
      cases present <;> simp only [Binding.presence, hj] <;>
        exact (isNegation_column fun rest => rfl).conjunction.expr
    | reverse column => cases present <;> simp only [Binding.presence, hj] <;> assumption
    | association table sourceColumn targetColumn =>
      cases present <;> simp only [Binding.presence, hj] <;> assumption
  case not =>
    intro next inner c ih inside wf
    cases wf with
    | not hinner => exact (ih _ hinner).part.not.conjunction.expr
  case and =>
    intro next parts cs hcs inside wf
    cases wf with
    | and _ hparts =>
      exact isExpr_and (hcs.right fun part hpart _ _ h => h _ (hparts part hpart))
  case or =>
    intro next parts cs hcs inside wf
    cases wf with
    | or _ hparts =>
      exact isExpr_or (hcs.right fun part hpart _ _ h => h _ (hparts part hpart))

end Expr

end FieldSearch.Sql
