import FieldSearch.Proofs.Outcome
import FieldSearch.Proofs.Search.Lowering
import FieldSearch.Sql.Render

/-!
# Binding of operands

A renderer binds one operand after another. What it comes to is known beforehand: the operands of a
predicate are numbered from left to right, a part starts where those before it have ended, and the
parameters are the operands with what was bound before them.
-/

namespace FieldSearch

mutual

/-- The values that the predicate compares with, from left to right. -/
def Predicate.operands : Predicate → List Scalar
  | .compare _ _ value => [value]
  | .isIn _ values => values
  | .isNull _ => []
  | .isNotNull _ => []
  | .exist _ inner => inner.operands
  | .related _ _ => []
  | .not inner => inner.operands
  | .and parts => Predicate.allOperands parts
  | .or parts => Predicate.allOperands parts

def Predicate.allOperands : List Predicate → List Scalar
  | [] => []
  | part :: rest => part.operands ++ Predicate.allOperands rest

end

namespace Sql

def operandValues (plan : Plan) : List Value := plan.predicate.operands.map Value.ofScalar

mutual

/-- The condition of a predicate whose first operand has the number `next`. -/
def condition (s : Scope) (next : Nat) : Predicate → Except RenderError Condition
  | .compare c comparison _ => return .compare (← s.column c) comparison next
  | .isIn c values => return membership (← s.column c) (List.range' next values.length)
  | .isNull c => return .isNull (← s.column c)
  | .isNotNull c => return .isNotNull (← s.column c)
  | .exist o inner => do
    let inner ← condition s next inner
    let b ← s.binding o
    return .existsWith (b.related o) inner
  | .related o present => do
    let b ← s.binding o
    return b.presence o present
  | .not inner => return .not (← condition s next inner)
  | .and parts => return .and (← conditions s next parts)
  | .or parts => return .or (← conditions s next parts)

def conditions (s : Scope) (next : Nat) : List Predicate → Except RenderError (List Condition)
  | [] => return []
  | part :: rest => do
    let first ← condition s next part
    let others ← conditions s (next + part.operands.length) rest
    return first :: others

end

/-! ### Steps of a renderer -/

/-- What a renderer comes to, given the number of the next placeholder, and the values that it binds
on the way. -/
def Renderer.Binds {α : Type} (x : Renderer α) (outcome : Nat → Except RenderError α)
    (values : List Value) : Prop :=
  ∀ params, x.run params = (·, params ++ values) <$> outcome (params.length + 1)

namespace Renderer.Binds

variable {α β : Type} {x : Renderer α} {outcome : Nat → Except RenderError α} {vs ws : List Value}

theorem pure (a : α) : Binds (Pure.pure a) (fun _ => .ok a) [] := by
  intro params
  rw [List.append_nil]
  rfl

theorem lift (y : Except RenderError α) : Binds (liftM y) (fun _ => y) [] := by
  intro params
  rw [List.append_nil]
  cases y <;> rfl

theorem bindValue (v : Value) : Binds (Sql.bindValue v) .ok [v] := by
  intro params
  change Except.ok ((params ++ [v]).length, params ++ [v]) = _
  rw [List.length_append]
  rfl

/-- The second step counts on from the first. -/
theorem bind (first : x.Binds outcome vs) {f : α → Renderer β}
    {after : α → Nat → Except RenderError β} (rest : ∀ a, (f a).Binds (after a) ws) :
    Binds (x >>= f) (fun next => outcome next >>= fun a => after a (next + vs.length))
      (vs ++ ws) := by
  intro params
  rw [StateT.run_bind, first params]
  change _ = _ <$> (outcome (params.length + 1) >>= _)
  cases outcome (params.length + 1) with
  | error e => rfl
  | ok a =>
    change (f a).run (params ++ vs) = _ <$> after a (params.length + 1 + vs.length)
    rw [rest a (params ++ vs), List.length_append, List.append_assoc, Nat.add_right_comm]

theorem of_eq (h : x.Binds outcome vs) {other : Nat → Except RenderError α}
    (same : ∀ next, other next = outcome next) (values : ws = vs) : x.Binds other ws := by
  intro params
  rw [same, values]
  exact h params

/-- A last step that binds nothing. -/
theorem map (first : x.Binds outcome vs) (f : α → β) :
    Binds (do return f (← x)) (fun next => do return f (← outcome next)) vs :=
  of_eq (bind first fun a => pure (f a)) (fun _ => rfl) (List.append_nil vs).symm

end Renderer.Binds

open Renderer

theorem bindValues_binds (vs : List Scalar) :
    Binds (vs.mapM fun v => bindValue (.ofScalar v)) (fun next => .ok (List.range' next vs.length))
      (vs.map Value.ofScalar) := by
  induction vs with
  | nil => exact .pure []
  | cons v rest ih =>
    rw [List.mapM_cons]
    exact (Binds.bindValue _).bind fun n => ih.map (n :: ·)

theorem Scope.predicates_binds {s : Scope} {parts : List Predicate}
    (each : ∀ part ∈ parts, Binds (s.predicate part) (condition s · part)
      (part.operands.map Value.ofScalar)) :
    Binds (s.predicates parts) (conditions s · parts)
      ((Predicate.allOperands parts).map Value.ofScalar) := by
  induction parts with
  | nil => exact .pure []
  | cons part rest ih =>
    obtain ⟨first, others⟩ := List.forall_mem_cons.mp each
    refine Binds.of_eq (first.bind fun c => (ih others).map (c :: ·)) (fun next => ?_) ?_
    · rw [conditions, List.length_map]
    · rw [Predicate.allOperands, List.map_append]

/-- Rendering a predicate numbers its operands from left to right and binds their values. -/
theorem Scope.predicate_binds (s : Scope) (p : Predicate) :
    Binds (s.predicate p) (condition s · p) (p.operands.map Value.ofScalar) := by
  induction p using Predicate.induct with
  | compare c comparison v =>
    exact (Binds.lift (s.column c)).bind fun column =>
      (Binds.bindValue _).map (Condition.compare column comparison)
  | isIn c vs =>
    exact (Binds.lift (s.column c)).bind fun column => (bindValues_binds vs).map (membership column)
  | isNull c => exact (Binds.lift (s.column c)).map Condition.isNull
  | isNotNull c => exact (Binds.lift (s.column c)).map Condition.isNotNull
  | exist o inner ih =>
    have related (c : Condition) := (Binds.lift (s.binding o)).map fun b =>
      Condition.existsWith (b.related o) c
    exact Binds.of_eq (ih.bind related) (fun _ => rfl) (List.append_nil _).symm
  | related o present => exact (Binds.lift (s.binding o)).map (·.presence o present)
  | not inner ih => exact ih.map Condition.not
  | and parts ih => exact (Scope.predicates_binds ih).map Condition.and
  | or parts ih => exact (Scope.predicates_binds ih).map Condition.or

/-! ### Statements -/

/-- The rows to return and those to skip. -/
def windowValues (page : Option Page) : List Value :=
  (page.map fun page => [.ofCount page.limit, .ofCount page.offset]).getD []

/-- The statement of a plan with its scope, its condition and its keys. -/
def statementOf (s : Scope) (plan : Plan) (c : Condition) (order : List OrderBy) : Fragment :=
  let operands := operandValues plan
  let window := plan.page.map fun _ => ⟨operands.length + 1, operands.length + 2⟩
  ⟨⟨.column ⟨rootRow, s.root.primaryKey⟩, ⟨s.root.table, rootRow⟩, c, order, window⟩,
    operands ++ windowValues plan.page⟩

theorem renderWindow_binds (page : Option Page) :
    Binds (page.mapM renderWindow) (fun next => .ok (page.map fun _ => ⟨next, next + 1⟩))
      (windowValues page) := by
  cases page with
  | none => exact .pure none
  | some page =>
    have window : Binds (renderWindow page) (fun next => .ok ⟨next, next + 1⟩)
        [.ofCount page.limit, .ofCount page.offset] :=
      (Binds.bindValue _).bind fun limit => (Binds.bindValue _).map (Window.mk limit)
    rw [Option.mapM_some, map_eq_pure_bind]
    exact window.map some

theorem Scope.select_binds (s : Scope) (plan : Plan) :
    Binds (s.select plan)
      (fun next => do
        let c ← condition s next plan.predicate
        let order ← plan.orderBy.mapM s.orderTerm
        let first := next + (operandValues plan).length
        return ⟨.column ⟨rootRow, s.root.primaryKey⟩, ⟨s.root.table, rootRow⟩, c, order,
          plan.page.map fun _ => ⟨first, first + 1⟩⟩)
      (operandValues plan ++ windowValues plan.page) := by
  have order (c : Condition) := (Binds.lift (plan.orderBy.mapM s.orderTerm)).bind fun order =>
    (renderWindow_binds plan.page).map
      (Select.mk (.column ⟨rootRow, s.root.primaryKey⟩) ⟨s.root.table, rootRow⟩ c order)
  exact (s.predicate_binds plan.predicate).bind order

theorem Scope.count_binds (s : Scope) (plan : Plan) :
    Binds (s.count plan)
      (fun next => do
        let c ← condition s next plan.predicate
        return ⟨.count, ⟨s.root.table, rootRow⟩, c, [], none⟩)
      (operandValues plan) :=
  (s.predicate_binds plan.predicate).map _

theorem Renderer.Binds.fragment {x : Renderer Select} {outcome : Nat → Except RenderError Select}
    {vs : List Value} (h : x.Binds outcome vs) :
    Fragment.ofRenderer x = do return ⟨← outcome 1, vs⟩ := by
  rw [Fragment.ofRenderer, h []]
  cases outcome 1 <;> rfl

section

variable {registry : Registry} {plan : Plan} {f : Fragment}

/-- The condition of a statement has its operands numbered from 1 on, and the numbers of the page
come after them. -/
theorem select_eq : select registry plan = (do
      let s ← Scope.ofPlan registry plan
      let c ← condition s 1 plan.predicate
      let order ← plan.orderBy.mapM s.orderTerm
      return statementOf s plan c order) := by
  refine bind_congr fun s => ?_
  rw [(s.select_binds plan).fragment, bind_assoc]
  refine bind_congr fun c => ?_
  rw [bind_assoc]
  refine bind_congr fun order => ?_
  simp [statementOf, Nat.add_comm 1]

theorem count_eq : count registry plan = (do
      let s ← Scope.ofPlan registry plan
      let c ← condition s 1 plan.predicate
      return ⟨⟨.count, ⟨s.root.table, rootRow⟩, c, [], none⟩, operandValues plan⟩) := by
  refine bind_congr fun s => ?_
  rw [(s.count_binds plan).fragment, bind_assoc]
  rfl

/-- What the statement of a plan is made of. -/
theorem select_eq_ok : select registry plan = .ok f ↔
    ∃ s c order, Scope.ofPlan registry plan = .ok s ∧ condition s 1 plan.predicate = .ok c ∧
      plan.orderBy.mapM s.orderTerm = .ok order ∧ f = statementOf s plan c order := by
  rw [select_eq]
  constructor
  · intro h
    obtain ⟨s, hs, h⟩ := bind_eq_ok.mp h
    obtain ⟨c, hc, h⟩ := bind_eq_ok.mp h
    obtain ⟨order, horder, h⟩ := bind_eq_ok.mp h
    cases h
    exact ⟨s, c, order, hs, hc, horder, rfl⟩
  · rintro ⟨s, c, order, hs, hc, horder, rfl⟩
    exact bind_eq_ok.mpr ⟨s, hs, bind_eq_ok.mpr ⟨c, hc, bind_eq_ok.mpr ⟨order, horder, rfl⟩⟩⟩

theorem count_eq_ok : count registry plan = .ok f ↔
    ∃ s c, Scope.ofPlan registry plan = .ok s ∧ condition s 1 plan.predicate = .ok c ∧
      f = ⟨⟨.count, ⟨s.root.table, rootRow⟩, c, [], none⟩, operandValues plan⟩ := by
  rw [count_eq]
  constructor
  · intro h
    obtain ⟨s, hs, h⟩ := bind_eq_ok.mp h
    obtain ⟨c, hc, h⟩ := bind_eq_ok.mp h
    cases h
    exact ⟨s, c, hs, hc, rfl⟩
  · rintro ⟨s, c, hs, hc, rfl⟩
    exact bind_eq_ok.mpr ⟨s, hs, bind_eq_ok.mpr ⟨c, hc, rfl⟩⟩

end

end Sql

end FieldSearch
