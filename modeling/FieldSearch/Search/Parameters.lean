import FieldSearch.Schema.Document
import FieldSearch.Search.Compile

/-!
# Search parameters

What an entity can be searched on: its attributes and relations, and the comparisons there are.
-/

namespace FieldSearch

namespace Comparison

/-- The types that the comparison accepts. -/
def acceptedTypes (c : Comparison) : List ScalarType := ScalarType.all.filter c.accepts

def tableRow (c : Comparison) : Json :=
  .object [("operator", .string c.name), ("tokens", Json.strings c.tokens),
    ("accepts", Json.strings (c.acceptedTypes.map (·.name)))]

def table : Json := .array (all.map tableRow)

end Comparison

def Entity.parameters (e : Entity) : Json :=
  .object [("entity", .string e.name),
    ("attributes", .array (e.attributes.map Attribute.toJson)),
    ("relations", .array (e.relations.map fun r => .object r.summaryMembers)),
    ("relationTable", Comparison.table)]

def Compiler.parameters (c : Compiler) (name : String) : Except SearchError Json := do
  pure (← c.root name).parameters

end FieldSearch
