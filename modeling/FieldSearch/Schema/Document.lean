import FieldSearch.Json.Reader
import FieldSearch.Json.Record
import FieldSearch.Schema.Registry

/-!
# Schema documents

A document lists entities and aliases in any order. Reading fills in what a document may leave out:
the table, the primary key `id`, that an entity can be searched, and empty lists.
-/

namespace FieldSearch

structure SchemaDocument where
  entities : List Entity
  aliases : List EntityAlias
  deriving DecidableEq

def ScalarType.ofJson? (j : Json) : Option ScalarType := j.name? >>= ofName?

def Cardinality.ofJson? (j : Json) : Option Cardinality := j.name? >>= ofName?

namespace Attribute

def toJson (a : Attribute) : Json :=
  .object [("name", .string a.name), ("type", .string a.type.name)]

def ofJson? (j : Json) : Option Attribute :=
  match j.fields? ["name", "type"] with
  | some [name, type] => do
    pure ⟨← Json.required? Json.string? name, ← Json.required? ScalarType.ofJson? type⟩
  | _ => none

end Attribute

namespace JoinKey

def toJson : JoinKey → Json
  | foreignKey column => .object [("foreignKey", .object [("column", .string column)])]
  | reverse column => .object [("reverse", .object [("column", .string column)])]
  | association table sourceColumn targetColumn =>
    .object [("association", .object [("table", .string table),
      ("sourceColumn", .string sourceColumn), ("targetColumn", .string targetColumn)])]

def columnOfJson? (j : Json) : Option String :=
  match j.fields? ["column"] with
  | some [column] => Json.required? Json.string? column
  | _ => none

def associationOfJson? (j : Json) : Option JoinKey :=
  match j.fields? ["table", "sourceColumn", "targetColumn"] with
  | some [table, sourceColumn, targetColumn] => do
    pure (association (← Json.required? Json.string? table)
      (← Json.required? Json.string? sourceColumn) (← Json.required? Json.string? targetColumn))
  | _ => none

def ofJson? : Json → Option JoinKey
  | .object [(kind, body)] =>
    if kind = "foreignKey" then (columnOfJson? body).map foreignKey
    else if kind = "reverse" then (columnOfJson? body).map reverse
    else if kind = "association" then associationOfJson? body
    else none
  | _ => none

end JoinKey

/-- A member that is left out when there is nothing to write. -/
def optionalMember {α : Type} (key : String) (f : α → Json) : Option α → List (String × Json)
  | none => []
  | some a => [(key, f a)]

namespace Relation

/-- What is told of a relation without its storage. -/
def summaryMembers (r : Relation) : List (String × Json) :=
  [("name", .string r.name), ("kind", .string r.cardinality.name), ("target", .string r.target),
    ("defaultTraversal", .bool r.isDefault)] ++
    optionalMember "defaultAlias" .string r.defaultAlias

def toJson (r : Relation) : Json := .object (r.summaryMembers ++ [("join", r.join.toJson)])

def ofJson? (j : Json) : Option Relation :=
  match j.fields? ["name", "kind", "target", "defaultTraversal", "defaultAlias", "join"] with
  | some [name, kind, target, isDefault, defaultAlias, join] => do
    pure {
      name := ← Json.required? Json.string? name
      cardinality := ← Json.required? Cardinality.ofJson? kind
      target := ← Json.required? Json.string? target
      isDefault := ← Json.default? false Json.bool? isDefault
      defaultAlias := ← Json.option? Json.string? defaultAlias
      join := ← Json.required? JoinKey.ofJson? join }
  | _ => none

end Relation

namespace Entity

def toJson (e : Entity) : Json :=
  .object [("name", .string e.name), ("table", .string e.table),
    ("primaryKey", .string e.primaryKey), ("searchable", .bool e.searchable),
    ("attributes", .array (e.attributes.map Attribute.toJson)),
    ("relations", .array (e.relations.map Relation.toJson))]

def ofJson? (j : Json) : Option Entity :=
  match j.fields? ["name", "table", "primaryKey", "searchable", "attributes", "relations"] with
  | some [name, table, primaryKey, searchable, attributes, relations] => do
    pure {
      name := ← Json.required? Json.string? name
      table := ← Json.default? "" Json.string? table
      primaryKey := ← Json.default? "id" Json.string? primaryKey
      searchable := ← Json.default? true Json.bool? searchable
      attributes := ← Json.default? [] (Json.list? Attribute.ofJson?) attributes
      relations := ← Json.default? [] (Json.list? Relation.ofJson?) relations }
  | _ => none

end Entity

namespace EntityAlias

def toJson (a : EntityAlias) : Json :=
  .object ([("name", .string a.name), ("entity", .string a.entity)] ++
    optionalMember "attributes" Json.strings a.attributes)

def ofJson? (j : Json) : Option EntityAlias :=
  match j.fields? ["name", "entity", "attributes"] with
  | some [name, entity, attributes] => do
    pure {
      name := ← Json.required? Json.string? name
      entity := ← Json.required? Json.string? entity
      attributes := ← Json.option? (Json.list? Json.string?) attributes }
  | _ => none

end EntityAlias

namespace SchemaDocument

def ofRegistry (r : Registry) : SchemaDocument := ⟨r.entities, r.aliases⟩

def toJson (d : SchemaDocument) : Json :=
  .object ([("entities", .array (d.entities.map Entity.toJson))] ++
    if d.aliases.isEmpty then [] else [("aliases", .array (d.aliases.map EntityAlias.toJson))])

def ofJson? (j : Json) : Option SchemaDocument :=
  match j.fields? ["entities", "aliases"] with
  | some [entities, aliases] => do
    pure {
      entities := ← Json.required? (Json.list? Entity.ofJson?) entities
      aliases := ← Json.default? [] (Json.list? EntityAlias.ofJson?) aliases }
  | _ => none

/-- Read the text of a document. -/
def ofText (text : String) : Except SchemaError SchemaDocument :=
  match Json.parse? text >>= ofJson? with
  | some d => .ok d
  | none => .error .unreadable

def registry (d : SchemaDocument) : Except SchemaError Registry :=
  Registry.build d.entities d.aliases

end SchemaDocument

end FieldSearch
