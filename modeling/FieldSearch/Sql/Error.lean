import FieldSearch.Search.Join

/-!
# Why a plan cannot be rendered
-/

namespace FieldSearch.Sql

/-- The plan names something that the schema does not have. -/
inductive RenderError where
  | unknownEntity (entity : String)
  | unknownRelation (entity relation : String)
  | unknownOccurrence (occurrence : Occurrence)
  | unknownColumn (entity column : String)
  deriving DecidableEq

namespace RenderError

def code : RenderError → String
  | unknownEntity _ => "UnknownEntity"
  | unknownRelation _ _ => "UnknownRelation"
  | unknownOccurrence _ => "UnknownAlias"
  | unknownColumn _ _ => "UnknownColumn"

def message : RenderError → String
  | unknownEntity entity => "plan references unknown entity " ++ entity
  | unknownRelation entity relation =>
    "plan references unknown relation " ++ entity ++ "." ++ relation
  | unknownOccurrence o =>
    "predicate references alias " ++ o.name ++ " which is not in the join plan"
  | unknownColumn entity column =>
    "plan references unknown column " ++ entity ++ "." ++ column

end RenderError

end FieldSearch.Sql
