import FieldSearch.Proofs.Search.Meaning
import FieldSearch.Proofs.Search.WellFormed

/-!
# The meaning of a resolved filter

A resolved filter is evaluated on a row of the root directly: every leaf looks at its own relation,
without occurrences and without a plan. The predicate that it is lowered to has the same truth value
on every row, so leaves that share an occurrence are not tied to one related row.
-/

namespace FieldSearch

open Sql

/-- The truth of a comparison of a column with an operand. A null operand asks for null. -/
def Operand.truth (comparison : Comparison) (column : StorageType × Value) : Operand → Truth
  | single .null => some (if comparison = .ne then !column.2.isNull else column.2.isNull)
  | single v => Value.compareTruth comparison column (.ofScalar v)
  | list vs => Truth.any (vs.map fun v =>
      if v.isNull then some column.2.isNull else column.2.equal (column.1.adapt (.ofScalar v)))

/-- What a traversal stands for. -/
def Traversal.binding? (registry : Registry) (t : Traversal) : Option Binding := do
  let source ← registry.entity? t.source
  let target ← registry.entity? t.relation.target
  pure ⟨source, t.relation, target⟩

/-- The truth of a leaf on a row of the root. -/
def ResolvedLeaf.truth (registry : Registry) (s : Store) (row : Store.Record) :
    ResolvedLeaf → Truth
  | compare none _ name comparison operand => operand.truth comparison (row.column name)
  | compare (some t) _ name comparison operand =>
    match t.binding? registry with
    | some b => some ((b.targets s row).any fun r =>
        operand.truth comparison (r.column name) == some true)
    | none => none
  | presence t present =>
    match t.binding? registry with
    | some b => some (b.leads s row == present)
    | none => none

namespace ResolvedFilter

mutual

/-- The truth of a filter on a row of the root. -/
def truth (registry : Registry) (s : Store) (row : Store.Record) : ResolvedFilter → Truth
  | leaf l => l.truth registry s row
  | not child => Truth.not (child.truth registry s row)
  | and children => Truth.all (truths registry s row children)
  | or children => Truth.any (truths registry s row children)

def truths (registry : Registry) (s : Store) (row : Store.Record) :
    List ResolvedFilter → List Truth
  | [] => []
  | child :: rest => child.truth registry s row :: truths registry s row rest

end

@[simp]
theorem truths_eq (registry : Registry) (s : Store) (row : Store.Record)
    (children : List ResolvedFilter) :
    truths registry s row children = children.map (truth registry s row) := by
  induction children with
  | nil => rfl
  | cons child rest ih => rw [truths, ih, List.map_cons]

end ResolvedFilter

/-! ### Lowering keeps the meaning -/

namespace Predicate

variable {binding? : Occurrence → Option Binding} {s : Store} {rows : Rows}

/-- Nulls in a list are a test of their own. -/
theorem any_operands (column : StorageType × Value) (vs : List Scalar) :
    Truth.any (vs.map fun v =>
      if v.isNull then some column.2.isNull else column.2.equal (column.1.adapt (.ofScalar v))) =
    if vs.any (·.isNull) then
      Truth.or (Value.memberTruth column ((vs.filter (!·.isNull)).map .ofScalar))
        (some column.2.isNull)
    else Value.memberTruth column ((vs.filter (!·.isNull)).map .ofScalar) := by
  have hcons : ∀ t ts, Truth.any (t :: ts) = Truth.or t (Truth.any ts) := fun _ _ => rfl
  induction vs with
  | nil => rfl
  | cons v rest ih =>
    rw [List.map_cons, hcons, ih]
    cases hv : v.isNull with
    | false =>
      simp only [Value.memberTruth, hv, List.any_cons, List.filter_cons, Bool.not_false,
        Bool.false_or, if_true, Bool.false_eq_true, if_false, List.map_cons, hcons]
      split
      · rw [Truth.or_assoc]
      · rfl
    | true =>
      have hrest : List.filter (!·.isNull) (v :: rest) = rest.filter (!·.isNull) := by
        simp [hv]
      rw [hrest, List.any_cons, hv, Bool.true_or, if_pos rfl, if_pos rfl]
      cases column.2.isNull <;>
        rcases Value.memberTruth column _ with _ | _ | _ <;> split <;> rfl

theorem ofOperand_truth (c : Column) (comparison : Comparison) (operand : Operand) :
    (ofOperand c comparison operand).truth binding? s rows =
      operand.truth comparison (rows.column c) := by
  cases operand with
  | single v =>
    cases v with
    | null => by_cases h : comparison = .ne <;> simp [ofOperand, Operand.truth, h, truth]
    | _ => rfl
  | list vs =>
    rw [ofOperand, ofList, Operand.truth, any_operands]
    cases vs.any (·.isNull) with
    | false => rfl
    | true =>
      cases vs.filter (!·.isNull) with
      | nil => cases h : (rows.column c).2.isNull <;> simp [truth, h] <;> rfl
      | cons v rest => simp [truth, Truth.any]

variable {registry : Registry} {root : Entity} {p : JoinPlan} {plan : Plan}

/-- The occurrence of a relation stands for that relation. -/
theorem binding?_of_lookup (consistent : registry.Consistent) (hroot : root ∈ registry.entities)
    (fits : p.Fits registry root) (hjoins : plan.joins = p.entries)
    (distinct : (plan.joins.map (·.occurrence)).Nodup) {r : Relation} (hr : r ∈ root.relations)
    {o : Occurrence} (h : p.lookup? root.name r.name = some o) :
    plan.binding? registry o = Traversal.binding? registry ⟨root.name, r⟩ := by
  have sound := consistent.sound root hroot
  obtain ⟨e, he, rfl, records⟩ := fits.lookup sound hr h
  have hfind := find?_name_of_mem (·.occurrence) distinct (hjoins ▸ he)
  have hentity := consistent.entity? hroot
  have hrelation := sound.relation? hr
  simp only [Plan.binding?, Traversal.binding?, hfind, records.source, records.relation,
    records.target, hentity, hrelation, Option.bind_eq_bind, Option.bind_some]

/-- A filter and the predicate it is lowered to have the same truth value on every row. -/
theorem lowered_truth (consistent : registry.Consistent) (hroot : root ∈ registry.entities)
    (fits : p.Fits registry root) (hjoins : plan.joins = p.entries)
    (distinct : (plan.joins.map (·.occurrence)).Nodup) {f : ResolvedFilter}
    (sound : f.Sound registry root) (serves : p.Serves f) (s : Store) (row : Store.Record) :
    (lowered p f).truth (plan.binding? registry) s (fun _ => row) = f.truth registry s row := by
  induction sound with
  | @leaf l hl =>
    cases hl with
    | direct => exact ofOperand_truth _ _ _
    | @via r target a comparison operand hr ht =>
      obtain ⟨o, ho, hp⟩ := (serves _ List.mem_cons_self _ rfl).allocate
      have hbinding := binding?_of_lookup consistent hroot fits hjoins distinct hr ho
      cases h : Traversal.binding? registry ⟨root.name, r⟩ with
      | none =>
        simp only [lowered_via _ _ _ _ hp, truth, ResolvedFilter.truth, ResolvedLeaf.truth,
          hbinding, h]
      | some b =>
        simp only [lowered_via _ _ _ _ hp, truth, ResolvedFilter.truth, ResolvedLeaf.truth,
          hbinding, h, ofOperand_truth, Rows.column, Rows.bind_self]
    | @presence r present hr =>
      obtain ⟨o, ho, hp⟩ := (serves _ List.mem_cons_self _ rfl).allocate
      have hbinding := binding?_of_lookup consistent hroot fits hjoins distinct hr ho
      cases h : Traversal.binding? registry ⟨root.name, r⟩ with
      | none =>
        simp only [lowered_presence _ hp, truth, ResolvedFilter.truth, ResolvedLeaf.truth,
          hbinding, h]
      | some b =>
        simp only [lowered_presence _ hp, truth, ResolvedFilter.truth, ResolvedLeaf.truth,
          hbinding, h]
  | not _ ih => rw [lowered_not, truth, ih serves, ResolvedFilter.truth]
  | and _ _ ih =>
    rw [lowered_and serves, truth, truths_eq, ResolvedFilter.truth, ResolvedFilter.truths_eq,
      List.map_map]
    exact congrArg Truth.all
      (List.map_congr_left fun child hchild => ih child hchild (serves.and child hchild))
  | or _ _ ih =>
    rw [lowered_or serves, truth, truths_eq, ResolvedFilter.truth, ResolvedFilter.truths_eq,
      List.map_map]
    exact congrArg Truth.any
      (List.map_congr_left fun child hchild => ih child hchild (serves.or child hchild))

end Predicate

/-- The predicate of a compiled plan has the truth value of the resolved filter. -/
theorem Compiler.Compiles.truth_eq {c : Compiler} {name : String} {filter : Json}
    {page : Option Page} {start : Entity} {resolved : ResolvedFilter}
    (compiles : c.Compiles name filter page plan start resolved)
    (consistent : c.registry.Consistent) (s : Store) (row : Store.Record) :
    plan.truth c.registry s row = resolved.truth c.registry s row := by
  have wf := compiles.wellFormed
  have hroot := wf.root_mem
  have fits := JoinPlan.ofFilter_fits consistent hroot compiles.sound.leaves
  rw [Plan.truth, compiles.predicate]
  exact Predicate.lowered_truth consistent hroot fits compiles.joins wf.distinct compiles.sound
    (JoinPlan.ofFilter_serves resolved) s row

end FieldSearch
