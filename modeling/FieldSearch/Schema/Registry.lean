import FieldSearch.Schema.Definition
import FieldSearch.Schema.Error

/-!
# The registry

Entities and aliases that fit together, each kept in the order of their names. `build` is the only
way to one; it refuses a list of definitions with the first thing that is wrong with it.
-/

namespace FieldSearch

structure Registry where
  entities : List Entity
  aliases : List EntityAlias
  deriving DecidableEq

namespace Registry

def entity? (r : Registry) (name : String) : Option Entity :=
  r.entities.find? (·.name == name)

/-- An entity that a search may name. -/
def searchable? (r : Registry) (name : String) : Option Entity :=
  (r.entity? name).filter (·.searchable)

def alias? (r : Registry) (name : String) : Option EntityAlias :=
  r.aliases.find? (·.name == name)

/-- The entity of this name, or the one that the alias of this name stands for, with the alias. -/
def entityOrAlias? (r : Registry) (name : String) : Option (Entity × Option EntityAlias) :=
  match r.entity? name with
  | some e => some (e, none)
  | none => do
    let a ← r.alias? name
    let e ← r.entity? a.entity
    pure (e, some a)

def searchableOrAlias? (r : Registry) (name : String) : Option (Entity × Option EntityAlias) :=
  (r.entityOrAlias? name).filter (·.1.searchable)

def searchableNames (r : Registry) : List String :=
  (r.entities.filter (·.searchable)).map (·.name)

end Registry

/-- Insert into a list in the order of its keys. -/
def insertSorted {α : Type} (key : α → String) (a : α) : List α → List α
  | [] => [a]
  | b :: rest => if key a < key b then a :: b :: rest else b :: insertSorted key a rest

/-- The first text that stands in the list for the second time. -/
def firstRepeated? (seen : List String) : List String → Option String
  | [] => none
  | s :: rest => if seen.contains s then some s else firstRepeated? (s :: seen) rest

namespace Entity

def memberNames (e : Entity) : List String :=
  e.attributes.map (·.name) ++ e.relations.map (·.name)

/-- Name the table after the entity if it has no name. -/
def withTable (e : Entity) : Entity :=
  if e.table.isEmpty then { e with table := tableNameFor e.name } else e

end Entity

namespace Registry

def checkNames (e : Entity) : Except SchemaError Unit :=
  match firstRepeated? [] e.memberNames with
  | some name => .error (.duplicateName e.name name)
  | none => .ok ()

/-- Add an entity to those that are known. -/
def addEntity (known : List Entity) (e : Entity) : Except SchemaError (List Entity) := do
  let e := e.withTable
  checkNames e
  if e.primaryKeyAttribute?.isNone then
    throw (.missingPrimaryKey e.name e.primaryKey)
  if known.any (·.name == e.name) then
    throw (.duplicateEntity e.name)
  pure (insertSorted (·.name) e known)

def checkAlias (entities : List Entity) (a : EntityAlias) : Except SchemaError Unit :=
  if entities.any (·.name == a.name) then .error (.invalidAlias a.name .nameTaken)
  else
    match entities.find? (·.name == a.entity) with
    | none => .error (.invalidAlias a.name (.unknownEntity a.entity))
    | some e =>
      match (a.attributes.getD []).find? fun name => (e.attribute? name).isNone with
      | some name => .error (.invalidAlias a.name (.noAttribute e.name name))
      | none => .ok ()

def addAlias (entities : List Entity) (known : List EntityAlias) (a : EntityAlias) :
    Except SchemaError (List EntityAlias) := do
  checkAlias entities a
  if known.any (·.name == a.name) then
    throw (.invalidAlias a.name .registeredTwice)
  pure (insertSorted (·.name) a known)

/-- A relation leads to one row just if it is stored as a foreign key. -/
def storageFits (r : Relation) : Bool :=
  match r.cardinality, r.join with
  | .toOne, .foreignKey _ => true
  | .toOne, _ => false
  | .toMany, .foreignKey _ => false
  | .toMany, _ => true

def checkRelation (entities : List Entity) (aliases : List EntityAlias) (e : Entity)
    (r : Relation) : Except SchemaError Unit :=
  if !entities.any (·.name == r.target) then .error (.danglingTarget e.name r.name r.target)
  else if !storageFits r then .error (.invalidJoinKey e.name r.name r.cardinality)
  else
    match r.defaultAlias with
    | none => .ok ()
    | some name =>
      if aliases.any fun a => a.name == name && a.entity == r.target then .ok ()
      else .error (.invalidAlias name (.notAliasOfTarget e.name r.name r.target))

/-- The default relations of an entity that answer to `key`. -/
def defaultsFor (e : Entity) (key : String) : List Relation :=
  e.relations.filter fun r => r.isDefault && r.defaultKey == key

def checkDefaults (e : Entity) : Except SchemaError Unit :=
  match e.relations.find? fun r => r.isDefault && 1 < (defaultsFor e r.defaultKey).length with
  | some r =>
    .error (.multipleDefaultTraversals e.name r.defaultKey
      ((defaultsFor e r.defaultKey).map (·.name)))
  | none => .ok ()

def checkRelations (entities : List Entity) (aliases : List EntityAlias) (e : Entity) :
    Except SchemaError Unit := do
  e.relations.forM (checkRelation entities aliases e)
  checkDefaults e

/-- Check the definitions and put them in order. -/
def build (entities : List Entity) (aliases : List EntityAlias) : Except SchemaError Registry := do
  let known ← entities.foldlM addEntity []
  let named ← aliases.foldlM (addAlias known) []
  known.forM (checkRelations known named)
  pure ⟨known, named⟩

end Registry

end FieldSearch
