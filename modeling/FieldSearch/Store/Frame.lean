import FieldSearch.Sql.Syntax
import FieldSearch.Store.Basic

/-!
# What names in a statement refer to

A condition is tested on a row and, within it, on rows of other tables. Each of them is a frame,
the innermost first. A column belongs to the first frame that has its row name and such a column.
-/

namespace FieldSearch

open Sql

/-- A row under a row name. -/
structure Store.Frame where
  row : RowName
  definition : TableDef
  cells : List Value

namespace Store

abbrev Frames := List Frame

namespace Frame

def columnIndex? (f : Frame) (c : ColumnName) : Option Nat :=
  if f.row = c.row then f.definition.columnIndex? c.column else none

end Frame

namespace Frames

/-- The type of a column with the value in it. -/
def column? (fs : Frames) (c : ColumnName) : Option (StorageType × Value) :=
  match fs with
  | [] => none
  | f :: rest =>
    match f.columnIndex? c with
    | some index => some (f.definition.typeAt index, f.cells.getD index .null)
    | none => column? rest c

def has (fs : Frames) (c : ColumnName) : Bool := (fs.column? c).isSome

/-- A column of every row that it may refer to, text and null if there is none. -/
def column (fs : Frames) (c : ColumnName) : StorageType × Value :=
  (fs.column? c).getD (.text, .null)

def value (fs : Frames) (c : ColumnName) : Value := (fs.column c).2

/-- Two columns are equal. If one of them holds numbers, text in the other is read as one. -/
def joined (fs : Frames) (a b : ColumnName) : Bool :=
  let (s, v) := fs.column a
  let (t, w) := fs.column b
  if s = .text ∧ t = .text then v.equal w == some true
  else v.asNumber.equal w.asNumber == some true

end Frames

/-- A frame of a table without a row, for the names in a statement. -/
def Table.frame (t : Table) (row : RowName) : Frame := ⟨row, t.definition, []⟩

def Table.frames (t : Table) (row : RowName) : Frames :=
  t.rows.map fun r => ⟨row, t.definition, r.cells⟩

/-- The frames of the tables of related rows, inside others; none if a table is missing. -/
def scope? (s : Store) (fs : Frames) (rows : Related) : Option Frames := do
  let source ← s.table? rows.source.table
  match rows.join with
  | none => pure (source.frame rows.source.row :: fs)
  | some join =>
    let other ← s.table? join.source.table
    pure (source.frame rows.source.row :: other.frame join.source.row :: fs)

def rowsOf (s : Store) (t : TableRef) : Frames := ((s.table? t.table).map (·.frames t.row)).getD []

/-- The frames of each row, or pair of joined rows, of the related tables. -/
def candidates (s : Store) (fs : Frames) (rows : Related) : List Frames :=
  match rows.join with
  | none => (s.rowsOf rows.source).map (· :: fs)
  | some join =>
    (s.rowsOf rows.source).flatMap fun source =>
      ((s.rowsOf join.source).map fun other => source :: other :: fs).filter
        (·.joined join.left join.right)

/-- The frames of the related rows. -/
def related (s : Store) (fs : Frames) (rows : Related) : List Frames :=
  (s.candidates fs rows).filter (·.joined rows.inner rows.outer)

end Store

end FieldSearch
