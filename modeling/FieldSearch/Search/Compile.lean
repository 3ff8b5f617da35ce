import FieldSearch.Search.Config
import FieldSearch.Search.Plan
import FieldSearch.Search.Resolve

/-!
# Compiling searches

From a request to a plan: read the filter, resolve it against the schema, plan the joins, and bind
the ordering.
-/

namespace FieldSearch

structure Compiler where
  registry : Registry
  config : Config

namespace Compiler

/-- The entity to search. -/
def root (c : Compiler) (name : String) : Except SearchError Entity :=
  match c.registry.searchable? name with
  | some e => .ok e
  | none => .error (.unknownEntity name (.string name))

def scope (c : Compiler) (root : Entity) : Scope := ⟨c.registry, root, c.config.normalizeStrings⟩

/-- Read and resolve a filter. -/
def resolve (c : Compiler) (root : Entity) (filter : Json) : Except SearchError ResolvedFilter := do
  let filter ← Filter.parse c.config.bounds filter
  (c.scope root).resolve filter

/-- The predicate of a resolved filter with its join plan. The joins are planned first, and lowering
the filter asks for them again. -/
def lower (f : ResolvedFilter) : Predicate × JoinPlan :=
  let (predicate, joins) := Predicate.ofFilter (JoinPlanner.ofFilter f) f
  (predicate, joins.plan)

def ordering (c : Compiler) (root : Entity) (orderBy : Json) :
    Except SearchError (List OrderTerm) := do
  let keys ← SortKey.parseAll orderBy
  OrderTerm.ofKeys c.registry root keys

def compile (c : Compiler) (name : String) (filter orderBy : Json) (page : Option Page) :
    Except SearchError Plan := do
  let root ← c.root name
  let resolved ← c.resolve root filter
  let (predicate, joins) := lower resolved
  let terms ← c.ordering root orderBy
  pure ⟨root.name, predicate, joins.entries, terms, page⟩

/-- The ordering of a request, which has two spellings for it. -/
def orderMember (query : Json) : Json :=
  ((query.get? "orderBy").or (query.get? "order_by")).getD .null

/-- Compile a request: `query.filter`, `query.orderBy` and `paginator`. -/
def compileRequest (c : Compiler) (name : String) (request : Json) : Except SearchError Plan :=
  let query := (request.get? "query").getD .null
  match query.getNonNull? "filter" with
  | none => .error .missingFilter
  | some filter => do
    let page ← Page.ofRequest c.config.maxItemsPerPage ((request.get? "paginator").getD .null)
    c.compile name filter (orderMember query) page

end Compiler

end FieldSearch
