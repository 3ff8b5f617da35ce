import FieldSearch.Search.Ordering
import FieldSearch.Search.Page

/-!
# Plans

What a search asks for, in the names of the schema. Plans are kept and exchanged as JSON, in which
a predicate is told by its `op`.
-/

namespace FieldSearch

structure Plan where
  root : String
  predicate : Predicate
  joins : List JoinEntry
  orderBy : List OrderTerm
  page : Option Page

namespace Occurrence

def toJson (o : Occurrence) : Json := Json.ofNat o.id.toNat

def ofJson? (j : Json) : Option Occurrence := j.uint32?.map Occurrence.mk

end Occurrence

namespace Column

def toJson (c : Column) : Json :=
  .object [("alias", c.occurrence.toJson), ("attribute", .string c.name)]

def ofJson? (j : Json) : Option Column :=
  match j.fields? ["alias", "attribute"] with
  | some [occurrence, name] => do
    pure ⟨← Json.required? Occurrence.ofJson? occurrence, ← Json.required? Json.string? name⟩
  | _ => none

end Column

def Comparison.ofJson? (j : Json) : Option Comparison := j.name? >>= ofName?

def SortDirection.ofJson? (j : Json) : Option SortDirection := j.name? >>= ofName?

namespace JoinEntry

def toJson (e : JoinEntry) : Json :=
  .object [("alias", e.occurrence.toJson), ("sourceEntity", .string e.source),
    ("relationName", .string e.relation), ("targetEntity", .string e.target),
    ("cardinality", .string e.cardinality.name)]

def cardinalityOfJson? (j : Json) : Option Cardinality := j.name? >>= Cardinality.ofName?

def ofJson? (j : Json) : Option JoinEntry :=
  match j.fields? ["alias", "sourceEntity", "relationName", "targetEntity", "cardinality"] with
  | some [occurrence, source, relation, target, cardinality] => do
    pure {
      occurrence := ← Json.required? Occurrence.ofJson? occurrence
      source := ← Json.required? Json.string? source
      relation := ← Json.required? Json.string? relation
      target := ← Json.required? Json.string? target
      cardinality := ← Json.required? cardinalityOfJson? cardinality }
  | _ => none

end JoinEntry

namespace OrderTerm

def toJson (t : OrderTerm) : Json :=
  .object [("column", t.column.toJson), ("direction", .string t.direction.name),
    ("caseInsensitive", .bool t.caseInsensitive)]

def ofJson? (j : Json) : Option OrderTerm :=
  match j.fields? ["column", "direction", "caseInsensitive"] with
  | some [column, direction, caseInsensitive] => do
    pure {
      column := ← Json.required? Column.ofJson? column
      direction := ← Json.required? SortDirection.ofJson? direction
      caseInsensitive := ← Json.required? Json.bool? caseInsensitive }
  | _ => none

end OrderTerm

namespace Predicate

def tagged (op : String) (members : List (String × Json)) : Json :=
  .object (("op", .string op) :: members)

mutual

def toJson : Predicate → Json
  | compare column comparison value =>
    tagged "compare" [("column", column.toJson), ("comparison", .string comparison.name),
      ("value", value.toJson)]
  | isIn column values =>
    tagged "in" [("column", column.toJson), ("values", .array (values.map Scalar.toJson))]
  | isNull column => tagged "isNull" [("column", column.toJson)]
  | isNotNull column => tagged "isNotNull" [("column", column.toJson)]
  | exist o inner => tagged "exists" [("alias", o.toJson), ("predicate", toJson inner)]
  | related o present => tagged "related" [("alias", o.toJson), ("exists", .bool present)]
  | not inner => tagged "not" [("predicate", toJson inner)]
  | and parts => tagged "and" [("predicates", .array (toJsons parts))]
  | or parts => tagged "or" [("predicates", .array (toJsons parts))]

def toJsons : List Predicate → List Json
  | [] => []
  | part :: rest => toJson part :: toJsons rest

end

/-- Split a record into its `op` and the rest of it. -/
def splitOp? : Json → Option (String × Json)
  | .object members => do
    let op ← Json.field? members "op"
    pure (← Json.required? Json.string? op, .object (members.filter (·.1 != "op")))
  | .array (.string op :: rest) => some (op, .array rest)
  | _ => none

/-- Read a predicate; the nesting of the JSON value bounds the nesting of predicates in it. -/
def read? (nesting : Nat) (j : Json) : Option Predicate :=
  match nesting with
  | 0 => none
  | nesting + 1 =>
    match splitOp? j with
    | none => none
    | some (op, body) =>
      if op = "compare" then
        match body.fields? ["column", "comparison", "value"] with
        | some [column, comparison, value] => do
          pure (compare (← Json.required? Column.ofJson? column)
            (← Json.required? Comparison.ofJson? comparison)
            (← Json.required? Scalar.ofJson? value))
        | _ => none
      else if op = "in" then
        match body.fields? ["column", "values"] with
        | some [column, values] => do
          pure (isIn (← Json.required? Column.ofJson? column)
            (← Json.required? (Json.list? Scalar.ofJson?) values))
        | _ => none
      else if op = "isNull" then
        match body.fields? ["column"] with
        | some [column] => (Json.required? Column.ofJson? column).map isNull
        | _ => none
      else if op = "isNotNull" then
        match body.fields? ["column"] with
        | some [column] => (Json.required? Column.ofJson? column).map isNotNull
        | _ => none
      else if op = "exists" then
        match body.fields? ["alias", "predicate"] with
        | some [o, inner] => do
          pure (exist (← Json.required? Occurrence.ofJson? o)
            (← Json.required? (read? nesting) inner))
        | _ => none
      else if op = "related" then
        match body.fields? ["alias", "exists"] with
        | some [o, present] => do
          pure (related (← Json.required? Occurrence.ofJson? o)
            (← Json.required? Json.bool? present))
        | _ => none
      else if op = "not" then
        match body.fields? ["predicate"] with
        | some [inner] => (Json.required? (read? nesting) inner).map not
        | _ => none
      else if op = "and" then
        match body.fields? ["predicates"] with
        | some [parts] => (Json.required? (Json.list? (read? nesting)) parts).map and
        | _ => none
      else if op = "or" then
        match body.fields? ["predicates"] with
        | some [parts] => (Json.required? (Json.list? (read? nesting)) parts).map or
        | _ => none
      else none

def ofJson? (j : Json) : Option Predicate := read? j.depth j

end Predicate

namespace Plan

def toJson (p : Plan) : Json :=
  .object ([("rootEntity", .string p.root), ("predicate", p.predicate.toJson),
    ("joins", .array (p.joins.map JoinEntry.toJson)),
    ("orderBy", .array (p.orderBy.map OrderTerm.toJson))] ++
    match p.page with
    | none => []
    | some page => [("pagination", page.toJson)])

def ofJson? (j : Json) : Option Plan :=
  match j.fields? ["rootEntity", "predicate", "joins", "orderBy", "pagination"] with
  | some [root, predicate, joins, orderBy, page] => do
    pure {
      root := ← Json.required? Json.string? root
      predicate := ← Json.required? Predicate.ofJson? predicate
      joins := ← Json.required? (Json.list? JoinEntry.ofJson?) joins
      orderBy := ← Json.required? (Json.list? OrderTerm.ofJson?) orderBy
      page := ← Json.option? Page.ofJson? page }
  | _ => none

end Plan

end FieldSearch
