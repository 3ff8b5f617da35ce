import FieldSearch.Schema.Registry
import FieldSearch.Sql.Text

/-!
# The tables of a schema

Every entity has its attributes in its table, and every relation the columns that store it: a
foreign key beside the attributes of the source, a reverse column beside those of the target, or a
table of its own. Entities may share a table; a column is declared when it is first needed.
-/

namespace FieldSearch.Sql

inductive StorageType where
  | integer
  | real
  | text
  deriving DecidableEq

namespace StorageType

def name : StorageType → String
  | integer => "INTEGER"
  | real => "REAL"
  | text => "TEXT"

def ofScalar : ScalarType → StorageType
  | .integer | .boolean => integer
  | .float => real
  | .string | .date | .datetime => text

/-- The type of the columns that refer to an entity. -/
def ofKey (e : Entity) : StorageType :=
  match e.primaryKeyAttribute? with
  | some a => ofScalar a.type
  | none => integer

end StorageType

structure ColumnDef where
  name : String
  type : StorageType
  deriving DecidableEq

structure TableDef where
  name : String
  primaryKey : Option String
  columns : List ColumnDef
  deriving DecidableEq

namespace TableDef

def empty (name : String) : TableDef := ⟨name, none, []⟩

/-- Declare a column unless one of its name is there. -/
def addColumn (t : TableDef) (c : ColumnDef) : TableDef :=
  if t.columns.any (·.name == c.name) then t else { t with columns := t.columns ++ [c] }

def columnText (t : TableDef) (c : ColumnDef) : String :=
  quoteIdentifier c.name ++ " " ++ c.type.name ++
    if t.primaryKey == some c.name then " PRIMARY KEY" else ""

def createText (t : TableDef) : String :=
  "CREATE TABLE IF NOT EXISTS " ++ quoteIdentifier t.name ++ " (" ++
    ", ".intercalate (t.columns.map t.columnText) ++ ")"

end TableDef

/-- Change the table of this name in a list that is sorted by name, adding it if it is missing. -/
def updateTable (name : String) (f : TableDef → TableDef) : List TableDef → List TableDef
  | [] => [f (.empty name)]
  | t :: rest =>
    if name < t.name then f (.empty name) :: t :: rest
    else if t.name = name then f t :: rest
    else t :: updateTable name f rest

def addColumn (tables : List TableDef) (table column : String) (type : StorageType) :
    List TableDef :=
  updateTable table (·.addColumn ⟨column, type⟩) tables

/-- Declare the attributes of an entity; the primary key is that of the last entity of a table. -/
def addEntity (tables : List TableDef) (e : Entity) : List TableDef :=
  updateTable e.table
    (fun t => (e.attributes.map fun a => ⟨a.name, .ofScalar a.type⟩).foldl TableDef.addColumn
      { t with primaryKey := some e.primaryKey })
    tables

/-- Declare the columns that store a relation of `source`. -/
def addRelation (registry : Registry) (source : Entity) (tables : List TableDef) (r : Relation) :
    List TableDef :=
  match registry.entity? r.target with
  | none => tables
  | some target =>
    match r.join with
    | .foreignKey column => addColumn tables source.table column (.ofKey target)
    | .reverse column => addColumn tables target.table column (.ofKey source)
    | .association table sourceColumn targetColumn =>
      addColumn (addColumn tables table sourceColumn (.ofKey source)) table targetColumn
        (.ofKey target)

/-- The tables of a schema in the order of their names. -/
def tables (registry : Registry) : List TableDef :=
  let ofEntities := registry.entities.foldl addEntity []
  registry.entities.foldl (fun ts e => e.relations.foldl (addRelation registry e) ts) ofEntities

/-- The statements that create the tables. -/
def createTexts (registry : Registry) : List String := (tables registry).map TableDef.createText

end FieldSearch.Sql
