import FieldSearch.Schema.Types
import FieldSearch.Text.Letter

/-!
# Entities, attributes and relations

An entity is a record type with a table of its own name in snake case, unless it names another. A
relation leads from it to another entity, by a column on either side or a table between them. An
alias is a second name of an entity that may narrow what can be searched.
-/

namespace FieldSearch

structure Attribute where
  name : String
  type : ScalarType
  deriving DecidableEq

/-- Where a relation is stored. -/
inductive JoinKey where
  /-- A column of the source refers to the primary key of the target. -/
  | foreignKey (column : String)
  /-- A column of the target refers to the primary key of the source. -/
  | reverse (column : String)
  /-- A table links the primary keys of both. -/
  | association (table sourceColumn targetColumn : String)
  deriving DecidableEq

structure Relation where
  name : String
  cardinality : Cardinality
  target : String
  /-- The relation is the way to its target when a path names only the target. -/
  isDefault : Bool
  /-- The alias that the default way answers to, in place of the target's name. -/
  defaultAlias : Option String
  join : JoinKey
  deriving DecidableEq

namespace Relation

/-- The name by which a path takes the default way. -/
def defaultKey (r : Relation) : String := r.defaultAlias.getD r.target

def isToMany (r : Relation) : Bool := r.cardinality == .toMany

def toOne (name target column : String) : Relation :=
  ⟨name, .toOne, target, false, none, .foreignKey column⟩

def toMany (name target column : String) : Relation :=
  ⟨name, .toMany, target, false, none, .reverse column⟩

def manyToMany (name target table sourceColumn targetColumn : String) : Relation :=
  ⟨name, .toMany, target, false, none, .association table sourceColumn targetColumn⟩

def asDefault (r : Relation) : Relation := { r with isDefault := true }

def asDefaultFor (r : Relation) (name : String) : Relation :=
  { r with isDefault := true, defaultAlias := some name }

end Relation

structure Entity where
  name : String
  table : String
  primaryKey : String
  searchable : Bool
  attributes : List Attribute
  relations : List Relation
  deriving DecidableEq

namespace Entity

def attribute? (e : Entity) (name : String) : Option Attribute :=
  e.attributes.find? (·.name == name)

def relation? (e : Entity) (name : String) : Option Relation :=
  e.relations.find? (·.name == name)

def primaryKeyAttribute? (e : Entity) : Option Attribute := e.attribute? e.primaryKey

def relationsTo (e : Entity) (target : String) : List Relation :=
  e.relations.filter (·.target == target)

/-- The default way to `name`, an entity or an alias. -/
def defaultTraversal? (e : Entity) (name : String) : Option Relation :=
  e.relations.find? fun r => r.isDefault && r.defaultKey == name

end Entity

/-- A second name of an entity; with a list of attributes, only those can be searched by it. -/
structure EntityAlias where
  name : String
  entity : String
  attributes : Option (List String)
  deriving DecidableEq

def EntityAlias.allows (a : EntityAlias) (name : String) : Bool :=
  match a.attributes with
  | none => true
  | some names => names.contains name

/-- The table of an entity: its name in lower case, with an underscore before each capital that
follows a small letter or a digit. -/
def tableChars (afterSmall : Bool) : List Char → List Char
  | [] => []
  | c :: rest =>
    if Text.isUpper c then
      (if afterSmall then ['_'] else []) ++ Text.lower c ++ tableChars false rest
    else
      c :: tableChars (Text.isLower c || c.isDigit) rest

def tableNameFor (entity : String) : String := String.ofList (tableChars false entity.toList)

end FieldSearch
