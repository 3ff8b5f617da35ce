import FieldSearch.Store.Error
import FieldSearch.Store.Order

/-!
# Tables

A table keeps its rows in the order of their numbers. An integer key is the row number; other keys
are unique but for null, and their rows are numbered as they come.
-/

namespace FieldSearch

open Sql

structure Store.Row where
  number : Int
  /-- One value for each column of the table. -/
  cells : List Value
  deriving DecidableEq

structure Store.Table where
  definition : TableDef
  rows : List Store.Row
  deriving DecidableEq

namespace Sql.TableDef

/-- The place of a column; names are the same whatever their case. -/
def columnIndex? (t : TableDef) (name : String) : Option Nat :=
  t.columns.findIdx? (sameName ·.name name)

/-- The place of the primary key. -/
def keyIndex? (t : TableDef) : Option Nat :=
  t.primaryKey >>= fun key => t.columns.findIdx? (·.name == key)

def typeAt (t : TableDef) (index : Nat) : StorageType :=
  (t.columns[index]?).elim .text (·.type)

/-- The place of the key if it is the row number. -/
def numberIndex? (t : TableDef) : Option Nat := t.keyIndex?.filter (t.typeAt · == .integer)

/-- The place of the key if it is not the row number. -/
def uniqueIndex? (t : TableDef) : Option Nat := t.keyIndex?.filter (t.typeAt · != .integer)

/-- Two columns have the same name. -/
def hasDuplicate (t : TableDef) : Bool :=
  !(t.columns.map (nameKey ·.name)).Nodup

end Sql.TableDef

namespace Store

namespace Row

def cell (r : Row) (index : Nat) : Value := r.cells.getD index .null

end Row

namespace Table

def lastNumber? (t : Table) : Option Int := (t.rows.map (·.number)).max?

/-- The number after the last one; numbers are words with a sign. -/
def nextNumber (t : Table) : Except StoreError Int :=
  match t.lastNumber? with
  | none => .ok 1
  | some n =>
    if n < Int64.maxValue.toInt then .ok (n + 1)
    else .error (.numbersExhausted t.definition.name)

def insertSorted (r : Row) : List Row → List Row
  | [] => [r]
  | first :: rest =>
    if r.number < first.number then r :: first :: rest else first :: insertSorted r rest

/-- Add a row unless its number is taken. -/
def addRow (t : Table) (r : Row) : Except StoreError Table :=
  if t.rows.any (·.number == r.number) then .error (.keyTaken t.definition.name)
  else .ok { t with rows := insertSorted r t.rows }

/-- Add a row whose key, at `index`, is its number. A null key takes the next number. -/
def addNumbered (t : Table) (index : Nat) (cells : List Value) : Except StoreError Table :=
  match cells.getD index .null with
  | .integer n => t.addRow ⟨n.toInt, cells⟩
  | .null => do
    let n ← t.nextNumber
    t.addRow ⟨n, cells.set index (.integer (Int64.ofInt n))⟩
  | _ => .error (.keyNotInteger t.definition.name)

def hasKey (t : Table) (index : Nat) (key : Value) : Bool :=
  t.rows.any fun r => (r.cell index).equal key == some true

def addCells (t : Table) (cells : List Value) : Except StoreError Table := do
  match t.definition.numberIndex? with
  | some index => t.addNumbered index cells
  | none =>
    match t.definition.uniqueIndex? with
    | some index =>
      if t.hasKey index (cells.getD index .null) then throw (.keyTaken t.definition.name)
    | none => pure ()
    t.addRow ⟨← t.nextNumber, cells⟩

def checkColumn (t : Table) (name : String) : Except StoreError Unit :=
  match t.definition.columnIndex? name with
  | some _ => .ok ()
  | none => .error (.missingColumn name)

/-- The cells of a row of which some values are given. -/
def cellsOf (t : Table) (values : List (String × Value)) : List Value :=
  t.definition.columns.map fun c =>
    c.type.keep ((values.find? (sameName ·.1 c.name)).elim .null (·.2))

/-- Insert a row; columns that are not given are null. -/
def insert (t : Table) (values : List (String × Value)) : Except StoreError Table := do
  values.forM fun v => t.checkColumn v.1
  t.addCells (t.cellsOf values)

end Table

end Store

end FieldSearch
