import FieldSearch.Schema.Types
import FieldSearch.Text.Quoted

/-!
# What can be wrong with a schema
-/

namespace FieldSearch

inductive AliasFault where
  /-- An entity has the name. -/
  | nameTaken
  | unknownEntity (entity : String)
  | noAttribute (entity name : String)
  | registeredTwice
  /-- A relation is the default way to the name, which is no alias of its target. -/
  | notAliasOfTarget (entity relation target : String)
  deriving DecidableEq

inductive SchemaError where
  | duplicateEntity (entity : String)
  | duplicateName (entity name : String)
  | missingPrimaryKey (entity primaryKey : String)
  | danglingTarget (entity relation target : String)
  | multipleDefaultTraversals (entity target : String) (relations : List String)
  /-- The relation is not stored as its cardinality demands. -/
  | invalidJoinKey (entity relation : String) (cardinality : Cardinality)
  | invalidAlias (name : String) (fault : AliasFault)
  /-- The text is no schema document. -/
  | unreadable
  deriving DecidableEq

def AliasFault.message (name : String) : AliasFault → String
  | nameTaken => "an entity already has this name"
  | unknownEntity entity => "unknown entity " ++ entity
  | noAttribute entity attr => entity ++ " has no attribute " ++ attr
  | registeredTwice => "alias is registered twice"
  | notAliasOfTarget entity relation target =>
    entity ++ "." ++ relation ++ " is a default traversal to " ++ name ++
      ", which is not an alias of " ++ target

def Cardinality.storageRule : Cardinality → String
  | toOne => "to-one relations must use a foreign key"
  | toMany => "to-many relations must use a reverse column or an association table"

namespace SchemaError

def code : SchemaError → String
  | duplicateEntity _ => "DuplicateEntity"
  | duplicateName _ _ => "DuplicateName"
  | missingPrimaryKey _ _ => "MissingPrimaryKey"
  | danglingTarget _ _ _ => "DanglingTarget"
  | multipleDefaultTraversals _ _ _ => "MultipleDefaultTraversals"
  | invalidJoinKey _ _ _ => "InvalidJoinKey"
  | invalidAlias _ _ => "InvalidAlias"
  | unreadable => "DocumentLoadFailed"

def message : SchemaError → String
  | duplicateEntity entity => "duplicate entity: " ++ entity
  | duplicateName entity name => "duplicate attribute or relation name: " ++ entity ++ "." ++ name
  | missingPrimaryKey entity primaryKey =>
    "primary key '" ++ primaryKey ++ "' is not an attribute of " ++ entity
  | danglingTarget entity relation target =>
    "relation " ++ entity ++ "." ++ relation ++ " targets unknown entity " ++ target
  | multipleDefaultTraversals entity target relations =>
    entity ++ " has more than one default traversal to " ++ target ++ ": " ++
      Text.quotedList relations
  | invalidJoinKey entity relation cardinality =>
    "relation " ++ entity ++ "." ++ relation ++ ": " ++ cardinality.storageRule
  | invalidAlias name fault => "invalid entity alias " ++ name ++ ": " ++ fault.message name
  | unreadable => "invalid schema document"

end SchemaError

end FieldSearch
