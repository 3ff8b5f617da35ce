import FieldSearch.Proofs.Store.Record
import FieldSearch.Sql.Render

/-!
# The meaning of a plan

The truth of the predicate of a plan on a row of the root, read off the predicate as it stands: an
occurrence is bound to one related row after another, and no statement is involved.
-/

namespace FieldSearch

open Sql

namespace Sql.Binding

/-- The relation leads from a row of its source to a row of its target. -/
def links (b : Binding) (s : Store) (source target : Store.Record) : Bool :=
  match b.relation.join with
  | .foreignKey column =>
    Value.columnsEqual (target.column b.target.primaryKey) (source.column column) == some true
  | .reverse column =>
    Value.columnsEqual (target.column column) (source.column b.source.primaryKey) == some true
  | .association table sourceColumn targetColumn =>
    (s.records table).any fun link =>
      Value.columnsEqual (target.column b.target.primaryKey) (link.column targetColumn) ==
        some true &&
      Value.columnsEqual (link.column sourceColumn) (source.column b.source.primaryKey) ==
        some true

/-- The rows to which the relation leads. -/
def targets (b : Binding) (s : Store) (source : Store.Record) : List Store.Record :=
  (s.records b.target.table).filter (b.links s source)

/-- The relation leads anywhere. A foreign key does unless it is null. -/
def leads (b : Binding) (s : Store) (source : Store.Record) : Bool :=
  match b.relation.join with
  | .foreignKey column => !(source.value column).isNull
  | .reverse _ => !(b.targets s source).isEmpty
  | .association _ _ _ => !(b.targets s source).isEmpty

end Sql.Binding

/-- What the occurrence of a plan stands for. -/
def Plan.binding? (registry : Registry) (plan : Plan) (o : Occurrence) : Option Binding := do
  let e ← plan.joins.find? (·.occurrence == o)
  let source ← registry.entity? e.source
  let relation ← source.relation? e.relation
  let target ← registry.entity? e.target
  pure ⟨source, relation, target⟩

/-- The rows that the occurrences are bound to. -/
abbrev Rows := Occurrence → Store.Record

namespace Rows

/-- Bind an occurrence to another row. -/
def bind (rows : Rows) (o : Occurrence) (r : Store.Record) : Rows :=
  fun other => if other = o then r else rows other

@[simp]
theorem bind_self (rows : Rows) (o : Occurrence) (r : Store.Record) : rows.bind o r o = r :=
  if_pos rfl

theorem bind_ne (rows : Rows) {o other : Occurrence} (r : Store.Record) (h : other ≠ o) :
    rows.bind o r other = rows other :=
  if_neg h

def column (rows : Rows) (c : Column) : StorageType × Value := (rows c.occurrence).column c.name

end Rows

namespace Predicate

mutual

/-- The truth of a predicate on bound rows. -/
def truth (binding? : Occurrence → Option Binding) (s : Store) (rows : Rows) : Predicate → Truth
  | compare c comparison v => Value.compareTruth comparison (rows.column c) (.ofScalar v)
  | isIn c vs => Value.memberTruth (rows.column c) (vs.map .ofScalar)
  | isNull c => some (rows.column c).2.isNull
  | isNotNull c => some (!(rows.column c).2.isNull)
  | exist o inner =>
    match binding? o with
    | some b =>
      some ((b.targets s (rows .root)).any fun r =>
        inner.truth binding? s (rows.bind o r) == some true)
    | none => none
  | related o present =>
    match binding? o with
    | some b => some (b.leads s (rows .root) == present)
    | none => none
  | not inner => Truth.not (inner.truth binding? s rows)
  | and parts => Truth.all (truths binding? s rows parts)
  | or parts => Truth.any (truths binding? s rows parts)

def truths (binding? : Occurrence → Option Binding) (s : Store) (rows : Rows) :
    List Predicate → List Truth
  | [] => []
  | part :: rest => part.truth binding? s rows :: truths binding? s rows rest

end

@[simp]
theorem truths_eq (binding? : Occurrence → Option Binding) (s : Store) (rows : Rows)
    (parts : List Predicate) :
    truths binding? s rows parts = parts.map (truth binding? s rows) := by
  induction parts with
  | nil => rfl
  | cons part rest ih => rw [truths, ih, List.map_cons]

end Predicate

/-- The truth of the predicate of a plan on a row of its root. -/
def Plan.truth (registry : Registry) (plan : Plan) (s : Store) (row : Store.Record) : Truth :=
  plan.predicate.truth (plan.binding? registry) s fun _ => row

end FieldSearch
