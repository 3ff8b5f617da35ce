import FieldSearch.Store.Condition

/-!
# The truth of a condition

A condition is true, false or unknown on the rows that its names stand for, by the connectives of
three-valued logic. The store asks whether it comes out as wanted; unless a comparison in it fails,
the answer tells that value.
-/

namespace FieldSearch

open Sql

namespace Sql.Truth

def not (t : Truth) : Truth := t.map (!·)

def and : Truth → Truth → Truth
  | some false, _ => some false
  | _, some false => some false
  | some true, some true => some true
  | _, _ => none

/-- All of them are true. -/
def all (ts : List Truth) : Truth := ts.foldr and (some true)

theorem or_eq_true {a b : Truth} : or a b = some true ↔ a = some true ∨ b = some true := by
  rcases a with _ | _ | _ <;> rcases b with _ | _ | _ <;> decide

theorem or_eq_false {a b : Truth} : or a b = some false ↔ a = some false ∧ b = some false := by
  rcases a with _ | _ | _ <;> rcases b with _ | _ | _ <;> decide

theorem or_eq_none {a b : Truth} (h : or a b = none) : a = none ∨ b = none := by
  rcases a with _ | _ | _ <;> rcases b with _ | _ | _ <;> revert h <;> decide

theorem and_eq_true {a b : Truth} : and a b = some true ↔ a = some true ∧ b = some true := by
  rcases a with _ | _ | _ <;> rcases b with _ | _ | _ <;> decide

theorem and_eq_false {a b : Truth} : and a b = some false ↔ a = some false ∨ b = some false := by
  rcases a with _ | _ | _ <;> rcases b with _ | _ | _ <;> decide

theorem and_beq_true (a b : Truth) :
    (and a b == some true) = (a == some true && b == some true) := by
  rcases a with _ | _ | _ <;> rcases b with _ | _ | _ <;> rfl

theorem not_eq {t : Truth} {b : Bool} : not t = some b ↔ t = some !b := by
  rcases t with _ | _ | _ <;> cases b <;> decide

theorem not_not (t : Truth) : not (not t) = t := by
  rcases t with _ | _ | _ <;> rfl

theorem or_assoc (a b c : Truth) : or (or a b) c = or a (or b c) := by
  rcases a with _ | _ | _ <;> rcases b with _ | _ | _ <;> rcases c with _ | _ | _ <;> rfl

theorem and_assoc (a b c : Truth) : and (and a b) c = and a (and b c) := by
  rcases a with _ | _ | _ <;> rcases b with _ | _ | _ <;> rcases c with _ | _ | _ <;> rfl

@[simp]
theorem or_false (a : Truth) : or a (some false) = a := by
  rcases a with _ | _ | _ <;> rfl

@[simp]
theorem and_true (a : Truth) : and a (some true) = a := by
  rcases a with _ | _ | _ <;> rfl

theorem any_eq_true {ts : List Truth} : any ts = some true ↔ some true ∈ ts := by
  induction ts with
  | nil => decide
  | cons t rest ih =>
    have h : any (t :: rest) = or t (any rest) := rfl
    rw [h, or_eq_true, ih, List.mem_cons, eq_comm]

theorem any_eq_false {ts : List Truth} : any ts = some false ↔ ∀ t ∈ ts, t = some false := by
  induction ts with
  | nil => decide
  | cons t rest ih =>
    have h : any (t :: rest) = or t (any rest) := rfl
    rw [h, or_eq_false, ih, List.forall_mem_cons]

theorem any_eq_none {ts : List Truth} (h : any ts = none) : none ∈ ts := by
  induction ts with
  | nil => cases h
  | cons t rest ih =>
    have hcons : any (t :: rest) = or t (any rest) := rfl
    rw [hcons] at h
    rcases or_eq_none h with rfl | hrest
    · exact List.mem_cons_self
    · exact List.mem_cons_of_mem t (ih hrest)

theorem any_pair_eq_none {t : Truth} {b : Bool} (h : any [t, some b] = none) :
    t = none ∧ b = false := by
  rcases t with _ | _ | _ <;> cases b <;> revert h <;> decide

theorem all_eq_true {ts : List Truth} : all ts = some true ↔ ∀ t ∈ ts, t = some true := by
  induction ts with
  | nil => decide
  | cons t rest ih =>
    have h : all (t :: rest) = and t (all rest) := rfl
    rw [h, and_eq_true, ih, List.forall_mem_cons]

theorem all_eq_false {ts : List Truth} : all ts = some false ↔ some false ∈ ts := by
  induction ts with
  | nil => decide
  | cons t rest ih =>
    have h : all (t :: rest) = and t (all rest) := rfl
    rw [h, and_eq_false, ih, List.mem_cons, eq_comm]

/-- A chain of disjunctions from the left is the disjunction of its members. -/
theorem foldl_or (t : Truth) (ts : List Truth) : ts.foldl or t = or t (any ts) := by
  induction ts generalizing t with
  | nil => exact (or_false t).symm
  | cons u rest ih =>
    have h : any (u :: rest) = or u (any rest) := rfl
    rw [List.foldl_cons, ih, h, or_assoc]

theorem foldl_and (t : Truth) (ts : List Truth) : ts.foldl and t = and t (all ts) := by
  induction ts generalizing t with
  | nil => exact (and_true t).symm
  | cons u rest ih =>
    have h : all (u :: rest) = and u (all rest) := rfl
    rw [List.foldl_cons, ih, h, and_assoc]

end Sql.Truth

namespace Sql.Value

/-- The truth of a comparison; values that cannot be compared leave it unknown. -/
def compareTruth (comparison : Comparison) (column : StorageType × Value) (operand : Value) :
    Truth :=
  match column.2.compare comparison column.1 operand with
  | .ok t => t
  | .error _ => none

/-- The value of a column is one of the operands. -/
def memberTruth (column : StorageType × Value) (operands : List Value) : Truth :=
  Truth.any (operands.map fun v => column.2.equal (column.1.adapt v))

/-- Two columns are equal. If one of them holds numbers, text in the other is read as one. -/
def columnsEqual (a b : StorageType × Value) : Truth :=
  if a.1 = .text ∧ b.1 = .text then a.2.equal b.2 else a.2.asNumber.equal b.2.asNumber

end Sql.Value

theorem Store.Frames.joined_eq (fs : Store.Frames) (a b : ColumnName) :
    fs.joined a b = (Value.columnsEqual (fs.column a) (fs.column b) == some true) := by
  simp only [joined, Value.columnsEqual]
  split <;> rfl

namespace Sql.Condition

mutual

/-- The truth of a condition in the frames that its names refer to. -/
def truth (s : Store) (params : List Value) (fs : Store.Frames) : Condition → Truth
  | compare c comparison n =>
    Value.compareTruth comparison (fs.column c) (Store.operand params n)
  | isIn c ns => Value.memberTruth (fs.column c) (ns.map (Store.operand params))
  | isNull c => some (fs.column c).2.isNull
  | isNotNull c => some (!(fs.column c).2.isNull)
  | existsWith rows inner =>
    some ((s.related fs rows).any fun fs => inner.truth s params fs == some true)
  | existsAny rows => some (!(s.related fs rows).isEmpty)
  | existsNone rows => some (s.related fs rows).isEmpty
  | not inner => Truth.not (inner.truth s params fs)
  | and parts => Truth.all (truths s params fs parts)
  | or parts => Truth.any (truths s params fs parts)

def truths (s : Store) (params : List Value) (fs : Store.Frames) : List Condition → List Truth
  | [] => []
  | part :: rest => part.truth s params fs :: truths s params fs rest

end

variable {s : Store} {params : List Value} {fs : Store.Frames}

@[simp]
theorem truths_eq (parts : List Condition) :
    truths s params fs parts = parts.map (truth s params fs) := by
  induction parts with
  | nil => rfl
  | cons part rest ih => rw [truths, ih, List.map_cons]

end Sql.Condition

end FieldSearch
