import FieldSearch.Proofs.Sql.Rendering

/-!
# The shape of a plan

The text of a statement depends on how many operands a plan has and where they stand, and not on
their values.
-/

namespace FieldSearch

namespace Predicate

mutual

/-- The predicate with null in place of each operand. -/
def shape : Predicate → Predicate
  | compare c comparison _ => compare c comparison .null
  | isIn c values => isIn c (values.map fun _ => .null)
  | isNull c => isNull c
  | isNotNull c => isNotNull c
  | exist o inner => exist o (shape inner)
  | related o present => related o present
  | not inner => not (shape inner)
  | and parts => and (shapes parts)
  | or parts => or (shapes parts)

def shapes : List Predicate → List Predicate
  | [] => []
  | part :: rest => shape part :: shapes rest

end

@[simp]
theorem shapes_eq (parts : List Predicate) : shapes parts = parts.map shape := by
  induction parts with
  | nil => rfl
  | cons part rest ih => rw [shapes, ih, List.map_cons]

@[simp]
theorem allOperands_eq (parts : List Predicate) :
    allOperands parts = parts.flatMap operands := by
  induction parts with
  | nil => rfl
  | cons part rest ih => rw [allOperands, ih, List.flatMap_cons]

theorem operands_shape_length (p : Predicate) :
    p.shape.operands.length = p.operands.length := by
  have all : ∀ {parts : List Predicate},
      (∀ part ∈ parts, part.shape.operands.length = part.operands.length) →
      ((parts.map shape).flatMap operands).length = (parts.flatMap operands).length := by
    intro parts each
    rw [List.flatMap_map, List.length_flatMap, List.length_flatMap]
    exact congrArg List.sum (List.map_congr_left each)
  induction p using Predicate.induct with
  | compare c comparison v => rfl
  | isIn c vs => simp [shape, operands]
  | isNull c => rfl
  | isNotNull c => rfl
  | exist o inner ih => exact ih
  | related o present => rfl
  | not inner ih => exact ih
  | and parts ih => simpa [shape, operands] using all ih
  | or parts ih => simpa [shape, operands] using all ih

end Predicate

/-- Two plans differ in the values of their operands and the bounds of their pages only. -/
structure Plan.Alike (p q : Plan) : Prop where
  root : p.root = q.root
  predicate : p.predicate.shape = q.predicate.shape
  joins : p.joins = q.joins
  orderBy : p.orderBy = q.orderBy
  paged : p.page.isSome = q.page.isSome

namespace Sql

variable {registry : Registry}

/-- A condition is the same for all values of its operands. -/
theorem condition_shape (s : Scope) (p : Predicate) (next : Nat) :
    condition s next p.shape = condition s next p := by
  have all : ∀ {parts : List Predicate},
      (∀ part ∈ parts, ∀ next, condition s next part.shape = condition s next part) →
      ∀ next, conditions s next (parts.map Predicate.shape) = conditions s next parts := by
    intro parts each
    induction parts with
    | nil => exact fun _ => rfl
    | cons part rest ih =>
      intro next
      rw [List.forall_mem_cons] at each
      rw [List.map_cons, conditions, conditions, each.1, part.operands_shape_length, ih each.2]
  induction p using Predicate.induct generalizing next with
  | compare c comparison v => rfl
  | isIn c vs => simp [Predicate.shape, condition]
  | isNull c => rfl
  | isNotNull c => rfl
  | exist o inner ih => rw [Predicate.shape, condition, condition, ih]
  | related o present => rfl
  | not inner ih => rw [Predicate.shape, condition, condition, ih]
  | and parts ih => rw [Predicate.shape, Predicate.shapes_eq, condition, condition, all ih]
  | or parts ih => rw [Predicate.shape, Predicate.shapes_eq, condition, condition, all ih]

end Sql

namespace Plan.Alike

open Sql

variable {registry : Registry} {p q : Plan}

theorem scope_eq (alike : p.Alike q) :
    Sql.Scope.ofPlan registry p = Sql.Scope.ofPlan registry q := by
  rw [Sql.Scope.ofPlan, Sql.Scope.ofPlan, alike.root, alike.joins]

theorem condition_eq (alike : p.Alike q) (s : Sql.Scope) :
    condition s 1 p.predicate = condition s 1 q.predicate := by
  rw [← condition_shape, alike.predicate, condition_shape]

theorem operands_length_eq (alike : p.Alike q) :
    (operandValues p).length = (operandValues q).length := by
  simp only [operandValues, List.length_map]
  rw [← Predicate.operands_shape_length, alike.predicate, Predicate.operands_shape_length]

theorem statement_eq (alike : p.Alike q) (s : Sql.Scope) (c : Condition) (order : List OrderBy) :
    (statementOf s p c order).select = (statementOf s q c order).select := by
  have hpaged := alike.paged
  simp only [statementOf, alike.operands_length_eq]
  cases hp : p.page <;> cases hq : q.page <;> simp [hp, hq] at hpaged ⊢

theorem select_text_eq (alike : p.Alike q) :
    (select registry p).map Fragment.text = (select registry q).map Fragment.text := by
  rw [Sql.select_eq, Sql.select_eq, alike.scope_eq]
  cases Sql.Scope.ofPlan registry q with
  | error e => rfl
  | ok s =>
    simp only [alike.condition_eq s, alike.orderBy, bind, Except.bind]
    cases condition s 1 q.predicate with
    | error e => rfl
    | ok c =>
      cases q.orderBy.mapM s.orderTerm with
      | error e => rfl
      | ok order => exact congrArg (Except.ok ∘ Select.text) (alike.statement_eq s c order)

theorem count_text_eq (alike : p.Alike q) :
    (count registry p).map Fragment.text = (count registry q).map Fragment.text := by
  rw [Sql.count_eq, Sql.count_eq, alike.scope_eq]
  cases Sql.Scope.ofPlan registry q with
  | error e => rfl
  | ok s =>
    simp only [alike.condition_eq s, bind, Except.bind]
    cases condition s 1 q.predicate with
    | error e => rfl
    | ok c => rfl

/-- Plans that bind the same values and have the same page are one statement. -/
theorem select_eq (alike : p.Alike q) (values : operandValues p = operandValues q)
    (page : p.page = q.page) : select registry p = select registry q := by
  simp only [Sql.select_eq, statementOf, alike.scope_eq, alike.condition_eq, alike.orderBy, values,
    page]

theorem count_eq (alike : p.Alike q) (values : operandValues p = operandValues q) :
    count registry p = count registry q := by
  simp only [Sql.count_eq, alike.scope_eq, alike.condition_eq, values]

end Plan.Alike

end FieldSearch
