import FieldSearch.Search.Join

/-!
# Predicates

The condition of a plan, over columns of numbered table occurrences. A leaf that takes a relation
becomes a condition on some row of its occurrence, so that a root without related rows fails it and
its negation holds.
-/

namespace FieldSearch

structure Column where
  occurrence : Occurrence
  name : String
  deriving DecidableEq

inductive Predicate where
  | compare (column : Column) (comparison : Comparison) (value : Scalar)
  | isIn (column : Column) (values : List Scalar)
  | isNull (column : Column)
  | isNotNull (column : Column)
  /-- Some row of the occurrence fulfils the inner predicate. -/
  | exist (occurrence : Occurrence) (inner : Predicate)
  /-- The occurrence has some row, or none. -/
  | related (occurrence : Occurrence) (present : Bool)
  | not (inner : Predicate)
  | and (parts : List Predicate)
  | or (parts : List Predicate)

namespace Predicate

/-- Put an occurrence after a list that lacks it. -/
def addOccurrence (seen : List Occurrence) (o : Occurrence) : List Occurrence :=
  if seen.contains o then seen else seen ++ [o]

mutual

def occurrencesFrom (seen : List Occurrence) : Predicate → List Occurrence
  | compare column _ _ => addOccurrence seen column.occurrence
  | isIn column _ => addOccurrence seen column.occurrence
  | isNull column => addOccurrence seen column.occurrence
  | isNotNull column => addOccurrence seen column.occurrence
  | exist o inner => occurrencesFrom (addOccurrence seen o) inner
  | related o _ => addOccurrence seen o
  | not inner => occurrencesFrom seen inner
  | and parts => occurrencesOf seen parts
  | or parts => occurrencesOf seen parts

def occurrencesOf (seen : List Occurrence) : List Predicate → List Occurrence
  | [] => seen
  | part :: rest => occurrencesOf (occurrencesFrom seen part) rest

end

/-- The occurrences that the predicate refers to, in the order of first use. -/
def occurrences (p : Predicate) : List Occurrence := occurrencesFrom [] p

/-- The condition on a list of values, nulls in it being tests for null. -/
def ofList (column : Column) (values : List Scalar) : Predicate :=
  let known := values.filter (!·.isNull)
  if !values.any (·.isNull) then isIn column known
  else if known.isEmpty then isNull column
  else or [isIn column known, isNull column]

/-- The condition of a comparison with an operand. -/
def ofOperand (column : Column) (comparison : Comparison) : Operand → Predicate
  | .single .null => if comparison = .ne then isNotNull column else isNull column
  | .single value => compare column comparison value
  | .list values => ofList column values

section

variable {σ : Type} [Allocator σ]

/-- The condition of a leaf; its traversal is given an occurrence. -/
def ofLeaf (joins : σ) : ResolvedLeaf → Predicate × σ
  | .compare none _ name comparison operand => (ofOperand ⟨.root, name⟩ comparison operand, joins)
  | .compare (some t) _ name comparison operand =>
    let (o, joins) := Allocator.allocate joins t
    (exist o (ofOperand ⟨o, name⟩ comparison operand), joins)
  | .presence t present =>
    let (o, joins) := Allocator.allocate joins t
    (related o present, joins)

mutual

/-- The condition of a filter, with the joins after it. -/
def ofFilter (joins : σ) : ResolvedFilter → Predicate × σ
  | .leaf l => ofLeaf joins l
  | .not child =>
    let (inner, joins) := ofFilter joins child
    (not inner, joins)
  | .and children =>
    let (parts, joins) := ofFilters joins children
    (and parts, joins)
  | .or children =>
    let (parts, joins) := ofFilters joins children
    (or parts, joins)

def ofFilters (joins : σ) : List ResolvedFilter → List Predicate × σ
  | [] => ([], joins)
  | child :: rest =>
    let (first, joins) := ofFilter joins child
    let (others, joins) := ofFilters joins rest
    (first :: others, joins)

end

end

end Predicate

end FieldSearch
