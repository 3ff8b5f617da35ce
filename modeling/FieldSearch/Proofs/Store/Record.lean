import FieldSearch.Proofs.Store.Truth

/-!
# Records

A record is a row together with the definition of its table, so that its columns can be asked for
by their names. Frames are records under row names.
-/

namespace FieldSearch

open Sql

structure Store.Record where
  definition : TableDef
  cells : List Value

namespace Store

namespace Record

def column? (r : Record) (name : String) : Option (StorageType × Value) :=
  (r.definition.columnIndex? name).map fun index =>
    (r.definition.typeAt index, r.cells.getD index .null)

/-- The type of a column with the value in it; text and null if there is none. -/
def column (r : Record) (name : String) : StorageType × Value :=
  (r.column? name).getD (.text, .null)

def value (r : Record) (name : String) : Value := (r.column name).2

/-- The frame of a record under a row name. -/
def frame (r : Record) (row : RowName) : Frame := ⟨row, r.definition, r.cells⟩

end Record

def Table.records (t : Table) : List Record := t.rows.map fun r => ⟨t.definition, r.cells⟩

/-- The rows of the table of this name. -/
def records (s : Store) (table : String) : List Record :=
  ((s.table? table).map Table.records).getD []

theorem records_eq {s : Store} {table : String} {t : Table} (h : s.table? table = some t) :
    s.records table = t.records := by
  rw [records, h, Option.map_some, Option.getD_some]

theorem mem_records {s : Store} {table : String} {t : Table} (h : s.table? table = some t)
    {r : Row} (hr : r ∈ t.rows) : ⟨t.definition, r.cells⟩ ∈ s.records table := by
  rw [records_eq h]
  exact List.mem_map.mpr ⟨r, hr, rfl⟩

theorem rowsOf_eq (s : Store) (t : TableRef) :
    s.rowsOf t = (s.records t.table).map (·.frame t.row) := by
  rw [rowsOf, records]
  cases s.table? t.table with
  | none => rfl
  | some table => simp [Table.frames, Table.records, Record.frame]

theorem Frames.column?_cons (r : Record) (row : RowName) (fs : Frames) (c : ColumnName) :
    Frames.column? (r.frame row :: fs) c =
      if row = c.row then (r.column? c.column).or (Frames.column? fs c)
      else Frames.column? fs c := by
  by_cases h : row = c.row
  · simp only [column?, Frame.columnIndex?, Record.frame, Record.column?, h, if_true]
    cases r.definition.columnIndex? c.column <;> rfl
  · simp only [column?, Frame.columnIndex?, Record.frame, h, if_false]

/-- The columns of a row are found in its frame alone if no other frame has its name. -/
theorem Frames.column_frame (r : Record) (row : RowName) {fs : Frames}
    (h : ∀ f ∈ fs, f.row ≠ row) (name : String) :
    Frames.column (r.frame row :: fs) ⟨row, name⟩ = r.column name := by
  have hnone : Frames.column? fs ⟨row, name⟩ = none := by
    induction fs with
    | nil => rfl
    | cons f rest ih =>
      rw [List.forall_mem_cons] at h
      simp only [column?, Frame.columnIndex?, h.1, if_false, ih h.2]
  rw [column, column?_cons, if_pos rfl, hnone, Option.or_none]
  rfl

theorem Record.value_frame (r : Record) (row : RowName) (name : String) :
    Frames.value [r.frame row] ⟨row, name⟩ = r.value name :=
  congrArg Prod.snd (Frames.column_frame r row (by simp) name)

theorem Frames.column_skip (r : Record) {row : RowName} {fs : Frames} {c : ColumnName}
    (h : row ≠ c.row) : Frames.column (r.frame row :: fs) c = Frames.column fs c := by
  rw [column, column?_cons, if_neg h, column]

theorem any_related (s : Store) (fs : Frames) (source : TableRef) (inner outer : ColumnName)
    (p : Frames → Bool) :
    (s.related fs ⟨source, none, inner, outer⟩).any p =
      (s.records source.table).any fun r =>
        Frames.joined (r.frame source.row :: fs) inner outer && p (r.frame source.row :: fs) := by
  simp [related, candidates, rowsOf_eq, List.any_filter, Function.comp_def]

theorem any_related_join (s : Store) (fs : Frames) (source : TableRef) (join : Join)
    (inner outer : ColumnName) (p : Frames → Bool) :
    (s.related fs ⟨source, some join, inner, outer⟩).any p =
      (s.records source.table).any fun r => (s.records join.source.table).any fun other =>
        let fs : Frames := r.frame source.row :: other.frame join.source.row :: fs
        fs.joined join.left join.right && (fs.joined inner outer && p fs) := by
  simp [related, candidates, rowsOf_eq, List.any_filter, List.any_flatMap, Function.comp_def]

theorem mem_related {s : Store} {fs gs : Frames} {source : TableRef} {inner outer : ColumnName} :
    gs ∈ s.related fs ⟨source, none, inner, outer⟩ ↔
      ∃ r ∈ s.records source.table, gs = r.frame source.row :: fs ∧ gs.joined inner outer := by
  simp only [related, candidates, rowsOf_eq, List.map_map, List.mem_filter, List.mem_map,
    Function.comp_apply]
  constructor
  · rintro ⟨⟨r, hr, rfl⟩, hjoined⟩
    exact ⟨r, hr, rfl, hjoined⟩
  · rintro ⟨r, hr, rfl, hjoined⟩
    exact ⟨⟨r, hr, rfl⟩, hjoined⟩

theorem mem_related_join {s : Store} {fs gs : Frames} {source : TableRef} {join : Join}
    {inner outer : ColumnName} :
    gs ∈ s.related fs ⟨source, some join, inner, outer⟩ ↔
      ∃ r ∈ s.records source.table, ∃ other ∈ s.records join.source.table,
        gs = r.frame source.row :: other.frame join.source.row :: fs ∧
        gs.joined join.left join.right ∧ gs.joined inner outer := by
  simp only [related, candidates, rowsOf_eq, List.flatMap_map, List.map_map, List.mem_filter,
    List.mem_flatMap, List.mem_map, Function.comp_apply]
  constructor
  · rintro ⟨⟨r, hr, ⟨other, hother, rfl⟩, hjoin⟩, hjoined⟩
    exact ⟨r, hr, other, hother, rfl, hjoin, hjoined⟩
  · rintro ⟨r, hr, other, hother, rfl, hjoin, hjoined⟩
    exact ⟨⟨r, hr, ⟨other, hother, rfl⟩, hjoin⟩, hjoined⟩

theorem isEmpty_eq_any {α : Type} (as : List α) : (!as.isEmpty) = as.any fun _ => true := by
  cases as <;> simp

end Store

end FieldSearch
