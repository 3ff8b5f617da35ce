import FieldSearch.Filter.Comparison
import FieldSearch.Json.Printer

/-!
# Why a search is rejected

Every error names its cause; where a part of the request is to blame, that part is kept as the
client wrote it. The wording is in `messageWith`, and `fieldKey` is the key under which the client
gets it. What a regular expression library has to say about a pattern that it refuses is a parameter
of the wording, and left out of `message`.
-/

namespace FieldSearch

/-- What is wrong with the shape of a filter or of an ordering. -/
inductive Malformation where
  | notArray
  | empty
  | unknownOperator
  | childrenNotArray
  | noChildren
  | nameNotString
  | tokenNotString
  | pathTooShort
  | orderNotArray
  | keyNotArray
  | keyLength
  | keyNotStrings
  deriving DecidableEq

/-- What an attribute or relation turned out to be when a comparison cannot be used with it. -/
inductive Subject where
  | scalar (type : ScalarType)
  | relation (cardinality : Cardinality)
  deriving DecidableEq

inductive OperandFault where
  | notList
  | nullOperand (comparison : Comparison)
  | wrongType (type : ScalarType) (operand : Json)
  /-- The pattern is kept as it was spelled when it was judged. -/
  | invalidPattern (pattern : String)

inductive PageFault where
  | notObject
  | notPositive
  | tooLarge (limit : Nat)
  deriving DecidableEq

inductive PageField where
  | paginator
  | page
  | itemsPerPage
  deriving DecidableEq

inductive SearchError where
  | malformed (reason : Malformation) (expression : Json)
  | invalidArity (arity : Nat) (expression : Json)
  | unknownToken (token : String) (expression : Json)
  | typeMismatch (entity name : String) (comparison : Comparison) (subject : Subject)
      (expression : Json)
  | unknownAttribute (entity name : String) (expression : Json)
  | unknownRelation (entity name : String) (expression : Json)
  /-- No relation is the default way to the target, to which so many relations lead. -/
  | ambiguousRelation (entity target : String) (candidates : Nat) (expression : Json)
  | tooDeep (hops limit : Nat) (expression : Json)
  | invalidDirection (direction : String) (expression : Json)
  | unknownEntity (entity : String) (expression : Json)
  | tooComplex (depth leaves maxDepth maxLeaves : Nat)
  | invalidOperand (entity name : String) (fault : OperandFault) (expression : Json)
  | invalidPagination (field : PageField) (fault : PageFault)
  | missingFilter

namespace Malformation

def text : Malformation → String
  | notArray => "expected a JSON array"
  | empty => "empty expression"
  | unknownOperator =>
    "two-element expressions must start with \"not\", \"and\" or \"or\""
  | childrenNotArray => "\"and\" and \"or\" take an array of expressions"
  | noChildren => "\"and\" and \"or\" need at least one expression"
  | nameNotString => "entity and attribute names must be strings"
  | tokenNotString => "the relation must be a string"
  | pathTooShort => "leaf path is too short"
  | orderNotArray => "orderBy must be an array"
  | keyNotArray => "order-by keys must be arrays"
  | keyLength => "order-by keys take the form [entity, attribute, direction]"
  | keyNotStrings => "order-by keys must contain strings"

end Malformation

def Subject.text : Subject → String
  | scalar type => type.name
  | relation cardinality => cardinality.name ++ " relation"

def ScalarType.expectation : ScalarType → String
  | integer => "an integer"
  | float => "a number"
  | string => "a string"
  | boolean => "a boolean"
  | date => "an ISO 8601 date (YYYY-MM-DD)"
  | datetime => "an ISO 8601 datetime (YYYY-MM-DDTHH:MM:SS)"

def OperandFault.textWith (explain : String → Option String) : OperandFault → String
  | notList => "in requires an array of values"
  | nullOperand comparison => "null can only be compared with = or !=, not " ++ comparison.symbol
  | wrongType type operand => "expected " ++ type.expectation ++ " but got " ++ operand.compact
  | invalidPattern pattern =>
    "invalid regular expression" ++ (explain pattern).elim "" (": " ++ ·)

def PageFault.text : PageFault → String
  | notObject => "must be an object"
  | notPositive => "must be an integer greater than 0"
  | tooLarge limit => "may not exceed " ++ toString limit

def PageField.name : PageField → String
  | paginator => "paginator"
  | page => "page"
  | itemsPerPage => "items_per_page"

namespace SearchError

def code : SearchError → String
  | malformed .. => "MalformedExpression"
  | invalidArity .. => "InvalidLeafArity"
  | unknownToken .. => "UnknownRelation"
  | typeMismatch .. => "RelationTypeMismatch"
  | unknownAttribute .. => "UnknownAttribute"
  | unknownRelation .. => "UnknownRelationName"
  | ambiguousRelation .. => "AmbiguousImplicitRelation"
  | tooDeep .. => "TraversalDepthExceeded"
  | invalidDirection .. => "InvalidSortDirection"
  | unknownEntity .. => "UnknownEntity"
  | tooComplex .. => "ExpressionTooComplex"
  | invalidOperand .. => "InvalidOperand"
  | invalidPagination .. => "InvalidPagination"
  | missingFilter => "MissingFilter"

/-- The part of the request that is to blame. -/
def expression? : SearchError → Option Json
  | malformed _ e => some e
  | invalidArity _ e => some e
  | unknownToken _ e => some e
  | typeMismatch _ _ _ _ e => some e
  | unknownAttribute _ _ e => some e
  | unknownRelation _ _ e => some e
  | ambiguousRelation _ _ _ e => some e
  | tooDeep _ _ e => some e
  | invalidDirection _ e => some e
  | unknownEntity _ e => some e
  | tooComplex .. => none
  | invalidOperand _ _ _ e => some e
  | invalidPagination .. => none
  | missingFilter => none

/-- The wording, with an explanation of patterns. -/
def messageWith (explain : String → Option String) : SearchError → String
  | malformed reason e => "malformed filter expression " ++ e.compact ++ ": " ++ reason.text
  | invalidArity arity e =>
    "filter expression " ++ e.compact ++ " has " ++ toString arity ++
      " elements; leaves take 4 or 5"
  | unknownToken token e => "unknown relation '" ++ token ++ "' in " ++ e.compact
  | typeMismatch entity name comparison subject _ =>
    "relation '" ++ comparison.symbol ++ "' cannot be used with " ++ entity ++ "." ++ name ++
      " (" ++ subject.text ++ ")"
  | unknownAttribute entity name _ =>
    "searching on " ++ entity ++ "." ++ name ++ " is not permitted"
  | unknownRelation entity name _ => entity ++ " has no relation named '" ++ name ++ "'"
  | ambiguousRelation entity target candidates _ =>
    "cannot resolve an implicit relation from " ++ entity ++ " to " ++ target ++ ": " ++
      toString candidates ++ " candidate relation(s), none marked as default"
  | tooDeep hops limit e =>
    "path " ++ e.compact ++ " traverses " ++ toString hops ++ " relations; at most " ++
      toString limit ++ " supported"
  | invalidDirection direction e =>
    "invalid sort direction '" ++ direction ++ "' in " ++ e.compact
  | unknownEntity entity _ => "searching on the " ++ entity ++ " entity is not permitted"
  | tooComplex depth leaves maxDepth maxLeaves =>
    "filter expression too complex: depth " ++ toString depth ++ " (max " ++ toString maxDepth ++
      "), " ++ toString leaves ++ " leaves (max " ++ toString maxLeaves ++ ")"
  | invalidOperand entity name fault e =>
    "invalid operand for " ++ entity ++ "." ++ name ++ " in " ++ e.compact ++ ": " ++
      fault.textWith explain
  | invalidPagination field fault =>
    "invalid pagination parameter '" ++ field.name ++ "': " ++ fault.text
  | missingFilter => "search request is missing query.filter"

/-- The wording where no pattern is explained. -/
def message (e : SearchError) : String := e.messageWith fun _ => none

/-- The key of the error in the answer to the client. -/
def fieldKey : SearchError → String
  | typeMismatch entity name comparison _ _ => entity ++ "." ++ name ++ "." ++ comparison.symbol
  | unknownAttribute entity name _ => entity ++ "." ++ name
  | invalidOperand entity name _ _ => entity ++ "." ++ name
  | unknownRelation entity name _ => entity ++ "." ++ name
  | ambiguousRelation entity target _ _ => entity ++ "." ++ target
  | unknownEntity entity _ => entity
  | invalidDirection .. => "OrderByError"
  | invalidPagination field _ => "paginator." ++ field.name
  | missingFilter => "query.filter"
  | e => e.code

/-- The status of the answer: a rejected request is always at fault itself. -/
def status (_ : SearchError) : Nat := 400

/-- The body of the answer. -/
def bodyWith (explain : String → Option String) (e : SearchError) : Json :=
  Json.record [("errors", .object [(e.fieldKey, .string (e.messageWith explain))]),
    ("code", .string e.code)]

def body (e : SearchError) : Json := e.bodyWith fun _ => none

end SearchError

end FieldSearch
