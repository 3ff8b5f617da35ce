import FieldSearch.Store.Table

/-!
# The store

The tables that have been created, with their rows.
-/

namespace FieldSearch

open Sql

structure Store where
  tables : List Store.Table
  deriving DecidableEq

namespace Store

def empty : Store := ⟨[]⟩

def table? (s : Store) (name : String) : Option Table :=
  s.tables.find? (sameName ·.definition.name name)

def hasNul (text : String) : Bool := text.toList.contains '\x00'

/-- The store keeps tables of its own under names that begin so. -/
def isReserved (table : String) : Bool :=
  "sqlite_".toList.isPrefixOf (nameKey table)

/-- Create a table; nothing happens if one of its name is there. -/
def create (s : Store) (t : TableDef) : Except StoreError Store :=
  if hasNul t.createText then .error .malformed
  else if isReserved t.name then .error (.reservedTable t.name)
  else if (s.table? t.name).isSome then .ok s
  else if t.hasDuplicate then .error (.duplicateColumn t.name)
  else .ok ⟨s.tables ++ [⟨t, []⟩]⟩

/-- Create one table after another up to the first that is refused. -/
def createAll (s : Store) : List TableDef → Store × Except StoreError Unit
  | [] => (s, .ok ())
  | t :: rest =>
    match s.create t with
    | .ok s => s.createAll rest
    | .error e => (s, .error e)

/-- Create the tables of a schema. -/
def createSchema (s : Store) (registry : Registry) : Store × Except StoreError Unit :=
  s.createAll (Sql.tables registry)

/-- Replace the table of this name. -/
def setTable (s : Store) (name : String) (t : Table) : Store :=
  ⟨s.tables.map fun old => if sameName old.definition.name name then t else old⟩

def insert (s : Store) (table : String) (values : List (String × Value)) :
    Except StoreError Store := do
  match s.table? table with
  | none => throw (.missingTable table)
  | some t => pure (s.setTable table (← t.insert values))

/-- Insert one row after another up to the first that is refused. -/
def insertAll (s : Store) (table : String) :
    List (List (String × Value)) → Store × Except StoreError Unit
  | [] => (s, .ok ())
  | values :: rest =>
    match s.insert table values with
    | .ok s => s.insertAll table rest
    | .error e => (s, .error e)

end Store

end FieldSearch
