import FieldSearch.Proofs.Sql.Reading
import FieldSearch.Proofs.Store.Record

/-!
# The value of an expression

An expression is evaluated on rows that go by their names. The innermost row of a name that has the
column is meant, so it matters that the rows of a statement have different names.
-/

namespace FieldSearch.Sql

/-- Rows by their names, the innermost first. -/
abbrev Environment := List (String × Store.Record)

namespace Environment

def column? (env : Environment) (c : Reference) : Option (StorageType × Value) :=
  match env with
  | [] => none
  | (name, r) :: rest =>
    if name = c.row then (r.column? c.column).or (column? rest c) else column? rest c

def column (env : Environment) (c : Reference) : StorageType × Value :=
  (env.column? c).getD (.text, .null)

/-- The rows of frames by the names of the frames. -/
def ofFrames (fs : Store.Frames) : Environment :=
  fs.map fun f => (f.row.text, ⟨f.definition, f.cells⟩)

end Environment

/-- Every choice of one row from each source. -/
def choices (s : Store) : List Source → List Environment
  | [] => [[]]
  | source :: rest =>
    (s.records source.table).flatMap fun r => (choices s rest).map fun env => (source.row, r) :: env

namespace Expr

/-- The truth of an expression. The placeholder `n` stands for the parameter of that number, the
first being number 1. -/
def truth (s : Store) (params : List Value) (env : Environment) : Expr → Truth
  | literal b => some b
  | compare c comparison n =>
    Value.compareTruth comparison (env.column c) (params.getD (n - 1) .null)
  | equal c d => Value.columnsEqual (env.column c) (env.column d)
  | isIn c ns => Value.memberTruth (env.column c) (ns.map fun n => params.getD (n - 1) .null)
  | isNull c => some (env.column c).2.isNull
  | isNotNull c => some (!(env.column c).2.isNull)
  | exist sources condition =>
    some ((choices s sources).any fun rows => condition.truth s params (rows ++ env) == some true)
  | not inner => Truth.not (inner.truth s params env)
  | and left right => Truth.and (left.truth s params env) (right.truth s params env)
  | or left right => Truth.or (left.truth s params env) (right.truth s params env)

variable {s : Store} {params : List Value} {env : Environment}

theorem truth_foldl_and (e : Expr) (es : List Expr) : (es.foldl and e).truth s params env =
    Truth.and (e.truth s params env) (Truth.all (es.map (truth s params env))) := by
  rw [← Truth.foldl_and, List.foldl_map]
  induction es generalizing e with
  | nil => rfl
  | cons f rest ih => exact ih (e.and f)

theorem truth_foldl_or (e : Expr) (es : List Expr) : (es.foldl or e).truth s params env =
    Truth.or (e.truth s params env) (Truth.any (es.map (truth s params env))) := by
  rw [← Truth.foldl_or, List.foldl_map]
  induction es generalizing e with
  | nil => rfl
  | cons f rest ih => exact ih (e.or f)

end Expr

/-! ### Row names are told apart by their text -/

theorem toDigits_injective {m n : Nat} (h : Nat.toDigits 10 m = Nat.toDigits 10 n) : m = n := by
  rw [← Nat.ofDigitChars_ten_toDigits (n := m), h, Nat.ofDigitChars_ten_toDigits]

theorem toDigits_ne_link (m n : Nat) : Nat.toDigits 10 m ≠ Nat.toDigits 10 n ++ "_link".toList := by
  intro h
  have hmem : '_' ∈ Nat.toDigits 10 m := by
    rw [h]
    exact List.mem_append_right _ (by decide)
  exact absurd (Nat.isDigit_of_mem_toDigits (by decide) (by decide) hmem) (by decide)

theorem RowName.text_injective {r r' : RowName} (h : r.text = r'.text) : r = r' := by
  have same : ∀ {o p : Occurrence}, o.id.toNat = p.id.toNat → o = p := by
    rintro ⟨o⟩ ⟨p⟩ h
    exact congrArg Occurrence.mk (UInt32.toNat_inj.mp h)
  have h := congrArg String.toList h
  cases r with
  | row o =>
    cases r' with
    | row p =>
      rw [text, text, name_toList, name_toList, List.cons.injEq] at h
      rw [same (toDigits_injective h.2)]
    | link p =>
      rw [text, text, name_toList, link_toList, List.cons.injEq] at h
      exact absurd h.2 (toDigits_ne_link _ _)
  | link o =>
    cases r' with
    | row p =>
      rw [text, text, name_toList, link_toList, List.cons.injEq] at h
      exact absurd h.2.symm (toDigits_ne_link _ _)
    | link p =>
      rw [text, text, link_toList, link_toList, List.cons.injEq] at h
      rw [same (toDigits_injective (List.append_cancel_right h.2))]

theorem Environment.column_ofFrames (fs : Store.Frames) (c : ColumnName) :
    (ofFrames fs).column c.reference = fs.column c := by
  have h : (ofFrames fs).column? c.reference = fs.column? c := by
    induction fs with
    | nil => rfl
    | cons f rest ih =>
      have hframe : f = Store.Record.frame ⟨f.definition, f.cells⟩ f.row := rfl
      have hrow : f.row.text = c.reference.row ↔ f.row = c.row :=
        ⟨RowName.text_injective, congrArg RowName.text⟩
      rw [hframe, Store.Frames.column?_cons, ← ih]
      simp only [ofFrames, List.map_cons, column?, Store.Record.frame, hrow]
      rfl
  rw [column, h]
  rfl

/-- The truth of a condition on some of the related rows. -/
theorem Related.truth_expr {s : Store} {params : List Value} (r : Related) (fs : Store.Frames)
    {condition : Expr} {p : Store.Frames → Bool}
    (h : ∀ fs, condition.truth s params (.ofFrames fs) = some true ↔
      fs.joined r.inner r.outer = true ∧ p fs = true) :
    (r.expr condition).truth s params (.ofFrames fs) = some ((s.related fs r).any p) := by
  obtain ⟨source, join, inner, outer⟩ := r
  have hbool : ∀ fs, (condition.truth s params (.ofFrames fs) == some true) =
      (fs.joined inner outer && p fs) := by
    intro fs
    rw [Bool.eq_iff_iff, Bool.and_eq_true, ← h fs, beq_iff_eq]
  have henv : ∀ (r : Store.Record) (row : RowName) fs,
      (row.text, r) :: Environment.ofFrames fs = Environment.ofFrames (r.frame row :: fs) :=
    fun _ _ _ => rfl
  cases join with
  | none =>
    rw [Store.any_related]
    simp [expr, sources, Expr.truth, choices, List.any_flatMap, TableRef.toSource, henv, hbool]
  | some j =>
    rw [Store.any_related_join]
    simp [expr, sources, Expr.truth, choices, List.any_flatMap, TableRef.toSource, henv, hbool,
      Truth.and_beq_true, Environment.column_ofFrames, Store.Frames.joined_eq]

/-- The expression that a condition stands for has its truth value. -/
theorem Condition.truth_expr (s : Store) (params : List Value) (c : Condition)
    (fs : Store.Frames) : c.expr.truth s params (.ofFrames fs) = c.truth s params fs := by
  have hlink : ∀ (rows : Related) fs, rows.link.truth s params (.ofFrames fs) = some true ↔
      fs.joined rows.inner rows.outer = true ∧ (fun _ => true) fs = true := by
    intro rows fs
    rw [Related.link, Expr.truth, Environment.column_ofFrames, Environment.column_ofFrames,
      Store.Frames.joined_eq, beq_iff_eq]
    simp
  have hany : ∀ (rows : Related) fs,
      (rows.expr rows.link).truth s params (.ofFrames fs) =
        some (!(s.related fs rows).isEmpty) := by
    intro rows fs
    rw [rows.truth_expr fs (hlink rows), Store.isEmpty_eq_any]
  have all : ∀ {parts : List Condition},
      (∀ part ∈ parts, ∀ fs, part.expr.truth s params (.ofFrames fs) = part.truth s params fs) →
      ∀ fs, (parts.map expr).map (Expr.truth s params (.ofFrames fs)) =
        parts.map (truth s params fs) := by
    intro parts each fs
    rw [List.map_map]
    exact List.map_congr_left fun part hpart => each part hpart fs
  induction c using Condition.induct generalizing fs with
  | compare column comparison n =>
    rw [expr, Expr.truth, Environment.column_ofFrames, truth, Store.operand]
  | isIn column ns =>
    rw [expr, Expr.truth, Environment.column_ofFrames, truth]
    rfl
  | isNull column => rw [expr, Expr.truth, Environment.column_ofFrames, truth]
  | isNotNull column => rw [expr, Expr.truth, Environment.column_ofFrames, truth]
  | existsWith rows inner ih =>
    refine rows.truth_expr fs fun fs => ?_
    have h := hlink rows fs
    rw [Expr.truth, Truth.and_eq_true, h, ih fs, beq_iff_eq]
    simp
  | existsAny rows => exact hany rows fs
  | existsNone rows =>
    rw [expr, Expr.truth, hany rows fs, truth]
    simp [Truth.not]
  | not inner ih => rw [expr, Expr.truth, ih fs, truth]
  | and parts ih =>
    cases parts with
    | nil => rfl
    | cons part rest =>
      rw [List.forall_mem_cons] at ih
      rw [expr, Expr.truth_foldl_and, ih.1 fs, exprs_eq, all ih.2, truth, truths_eq]
      rfl
  | or parts ih =>
    cases parts with
    | nil => rfl
    | cons part rest =>
      rw [List.forall_mem_cons] at ih
      rw [expr, Expr.truth_foldl_or, ih.1 fs, exprs_eq, all ih.2, truth, truths_eq]
      rfl

end FieldSearch.Sql
