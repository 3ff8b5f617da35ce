import FieldSearch.Schema.Registry
import FieldSearch.Search.Plan
import FieldSearch.Sql.Error
import FieldSearch.Sql.Value
import FieldSearch.Sql.Text

/-!
# Rendering plans

A plan becomes a statement on the table of its root alone, so that no row is returned twice. Each
relation becomes an `exists` condition of its own. A renderer binds each operand when it comes to
it, so that the parameters count from 1 on in the order in which the text mentions them.
-/

namespace FieldSearch

namespace Sql

/-- An entry of the join plan with what it names. -/
structure Binding where
  source : Entity
  relation : Relation
  target : Entity

/-- What the names of a plan stand for. -/
structure Scope where
  root : Entity
  bindings : List (Occurrence × Binding)

def entityNamed (registry : Registry) (name : String) : Except RenderError Entity :=
  match registry.entity? name with
  | some e => .ok e
  | none => .error (.unknownEntity name)

def Binding.ofEntry (registry : Registry) (e : JoinEntry) : Except RenderError Binding := do
  let source ← entityNamed registry e.source
  match source.relation? e.relation with
  | none => throw (.unknownRelation e.source e.relation)
  | some relation => pure ⟨source, relation, ← entityNamed registry relation.target⟩

namespace Scope

def ofPlan (registry : Registry) (plan : Plan) : Except RenderError Scope := do
  let root ← entityNamed registry plan.root
  let bindings ← plan.joins.mapM fun e => do pure (e.occurrence, ← Binding.ofEntry registry e)
  pure ⟨root, bindings⟩

/-- The binding of an occurrence, the last of several. -/
def binding (s : Scope) (o : Occurrence) : Except RenderError Binding :=
  match s.bindings.reverse.lookup o with
  | some b => .ok b
  | none => .error (.unknownOccurrence o)

/-- The entity whose rows an occurrence has. -/
def entity (s : Scope) (o : Occurrence) : Except RenderError Entity :=
  if o.isRoot then .ok s.root else (·.target) <$> s.binding o

def column (s : Scope) (c : Column) : Except RenderError ColumnName := do
  let e ← s.entity c.occurrence
  match e.attribute? c.name with
  | some _ => pure ⟨.row c.occurrence, c.name⟩
  | none => throw (.unknownColumn e.name c.name)

end Scope

def rootRow : RowName := .row .root

/-- The rows to which a relation leads from the root row. -/
def Binding.related (b : Binding) (o : Occurrence) : Related :=
  match b.relation.join with
  | .reverse column =>
    ⟨⟨b.target.table, .row o⟩, none, ⟨.row o, column⟩, ⟨rootRow, b.source.primaryKey⟩⟩
  | .association table sourceColumn targetColumn =>
    ⟨⟨table, .link o⟩,
      some ⟨⟨b.target.table, .row o⟩, ⟨.row o, b.target.primaryKey⟩, ⟨.link o, targetColumn⟩⟩,
      ⟨.link o, sourceColumn⟩, ⟨rootRow, b.source.primaryKey⟩⟩
  | .foreignKey column =>
    ⟨⟨b.target.table, .row o⟩, none, ⟨.row o, b.target.primaryKey⟩, ⟨rootRow, column⟩⟩

/-- The test whether a relation leads anywhere. A foreign key tells it without a look at the
target. -/
def Binding.presence (b : Binding) (o : Occurrence) (present : Bool) : Condition :=
  match b.relation.join, present with
  | .foreignKey column, true => .isNotNull ⟨rootRow, column⟩
  | .foreignKey column, false => .isNull ⟨rootRow, column⟩
  | _, true => .existsAny (b.related o)
  | _, false => .existsNone (b.related o)

/-- Membership in a list; nothing is in the empty one. -/
def membership (column : ColumnName) : List Nat → Condition
  | [] => .or []
  | numbers => .isIn column numbers

/-! ### Conditions -/

/-- Rendering, with the values that have been bound to placeholders so far. -/
abbrev Renderer := StateT (List Value) (Except RenderError)

/-- Bind a value to the next placeholder, and return its number. -/
def bindValue (v : Value) : Renderer Nat := do
  modify (· ++ [v])
  return (← get).length

mutual

/-- The condition of a predicate. Its operands are bound on the way, from left to right. -/
def Scope.predicate (s : Scope) : Predicate → Renderer Condition
  | .compare c comparison v => do
    let column ← s.column c
    return .compare column comparison (← bindValue (.ofScalar v))
  | .isIn c vs => do
    let column ← s.column c
    return membership column (← vs.mapM fun v => bindValue (.ofScalar v))
  | .isNull c => return .isNull (← s.column c)
  | .isNotNull c => return .isNotNull (← s.column c)
  | .exist o inner => do
    let inner ← s.predicate inner
    let b ← s.binding o
    return .existsWith (b.related o) inner
  | .related o present => do
    let b ← s.binding o
    return b.presence o present
  | .not inner => return .not (← s.predicate inner)
  | .and parts => return .and (← s.predicates parts)
  | .or parts => return .or (← s.predicates parts)

def Scope.predicates (s : Scope) : List Predicate → Renderer (List Condition)
  | [] => return []
  | part :: rest => do
    let first ← s.predicate part
    let others ← s.predicates rest
    return first :: others

end

/-! ### Statements -/

def Scope.orderTerm (s : Scope) (t : OrderTerm) : Except RenderError OrderBy :=
  return ⟨← s.column t.column, t.caseInsensitive, t.direction⟩

/-- A statement with the values of its placeholders. -/
structure Fragment where
  select : Select
  params : List Value

namespace Fragment

def text (f : Fragment) : String := f.select.text

def toJson (f : Fragment) : Json :=
  .object [("sql", .string f.text), ("params", .array (f.params.map Value.toTagged))]

end Fragment

/-- Render a statement with the values of its placeholders. -/
def Fragment.ofRenderer (statement : Renderer Select) : Except RenderError Fragment := do
  let (select, params) ← statement.run []
  return ⟨select, params⟩

/-- The rows to return and those to skip. -/
def renderWindow (page : Page) : Renderer Window := do
  let limit ← bindValue (.ofCount page.limit)
  let offset ← bindValue (.ofCount page.offset)
  return ⟨limit, offset⟩

/-- The statement that returns the keys of the rows on the page of the plan, in its order. -/
def Scope.select (s : Scope) (plan : Plan) : Renderer Select := do
  let condition ← s.predicate plan.predicate
  let order ← (plan.orderBy.mapM s.orderTerm : Except RenderError (List OrderBy))
  let window ← plan.page.mapM renderWindow
  return ⟨.column ⟨rootRow, s.root.primaryKey⟩, ⟨s.root.table, rootRow⟩, condition, order, window⟩

/-- The statement that counts the rows, whatever the page and the order. -/
def Scope.count (s : Scope) (plan : Plan) : Renderer Select := do
  let condition ← s.predicate plan.predicate
  return ⟨.count, ⟨s.root.table, rootRow⟩, condition, [], none⟩

def select (registry : Registry) (plan : Plan) : Except RenderError Fragment := do
  let s ← Scope.ofPlan registry plan
  Fragment.ofRenderer (s.select plan)

def count (registry : Registry) (plan : Plan) : Except RenderError Fragment := do
  let s ← Scope.ofPlan registry plan
  Fragment.ofRenderer (s.count plan)

end Sql

end FieldSearch
