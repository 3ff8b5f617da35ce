import FieldSearch.Filter.Basic
import FieldSearch.Pattern.Basic
import FieldSearch.Schema.Registry
import FieldSearch.Search.Error
import FieldSearch.Search.Resolved
import FieldSearch.Text.Normal

/-!
# Resolving filters

A path names an attribute of the root; a relation of the root; or another entity, by its name or an
alias, which is reached over the relation of the root that is the default way to it. A path of
three names takes a relation of the root and an attribute of its target. No path takes two
relations.
-/

namespace FieldSearch

/-- What the names of a filter are resolved against. -/
structure Scope where
  registry : Registry
  root : Entity
  /-- Strings in operands are decomposed. -/
  normalize : Bool

/-- The relations that one path may take. -/
def maxHops : Nat := 1

namespace Scope

def tooDeep (l : Leaf) (hops : Nat) : SearchError := .tooDeep hops maxHops l.source

/-- Convert an operand to a type. -/
def convert? (scope : Scope) (type : ScalarType) (value : Json) : Option Scalar :=
  match type with
  | .integer => value.int64?.map .integer
  | .float => value.number?.map .float
  | .boolean => value.bool?.map .boolean
  | .string => value.string?.map fun s => .string (if scope.normalize then Text.nfd s else s)
  | .date => (value.string? >>= Date.ofOperand?).map .date
  | .datetime => (value.string? >>= Datetime.ofOperand?).map .datetime

/-- Convert one value of an operand; null fits every type. -/
def value (scope : Scope) (type : ScalarType) (j : Json) : Except OperandFault Scalar :=
  match j with
  | .null => .ok .null
  | j =>
    match scope.convert? type j with
    | some v => .ok v
    | none => .error (.wrongType type j)

def values (scope : Scope) (type : ScalarType) : List Json → Except OperandFault (List Scalar)
  | [] => .ok []
  | j :: rest => do
    let v ← scope.value type j
    let vs ← scope.values type rest
    pure (v :: vs)

/-- A pattern has to be a regular expression; all else passes. -/
def checkPattern (comparison : Comparison) (v : Scalar) : Except OperandFault Unit :=
  match comparison, v with
  | .regex, .string p => if Pattern.isValid p then .ok () else .error (.invalidPattern p)
  | _, _ => .ok ()

def operand (scope : Scope) (comparison : Comparison) (type : ScalarType) (j : Json) :
    Except OperandFault Operand :=
  if comparison = .isIn then
    match j with
    | .array items => .list <$> scope.values type items
    | _ => .error .notList
  else if j.isNull ∧ (comparison.isOrdering ∨ comparison.isPattern) then
    .error (.nullOperand comparison)
  else do
    let v ← scope.value type j
    checkPattern comparison v
    pure (.single v)

/-- The leaf that compares an attribute of `entity`. -/
def compareLeaf (scope : Scope) (l : Leaf) (via : Option Relation) (entity : Entity)
    (a : Attribute) : Except SearchError ResolvedLeaf :=
  if !l.comparison.accepts a.type then
    .error (.typeMismatch entity.name a.name l.comparison (.scalar a.type) l.source)
  else
    match scope.operand l.comparison a.type l.operand with
    | .ok operand =>
      .ok (.compare (via.map fun r => ⟨scope.root.name, r⟩) entity.name a.name l.comparison operand)
    | .error fault => .error (.invalidOperand entity.name a.name fault l.source)

/-- The leaf that compares a relation with null. -/
def presenceLeaf (l : Leaf) (entity : Entity) (r : Relation) : Except SearchError ResolvedLeaf :=
  if !l.comparison.isEquality ∨ !l.operand.isNull then
    .error (.typeMismatch entity.name r.name l.comparison (.relation r.cardinality) l.source)
  else .ok (.presence ⟨entity.name, r⟩ (l.comparison == .ne))

/-- The default way from the root to `name`, an entity or an alias. -/
def defaultTraversal (scope : Scope) (l : Leaf) (name : String) : Except SearchError Relation :=
  match scope.root.defaultTraversal? name with
  | some r => .ok r
  | none =>
    let target := ((scope.registry.alias? name).map (·.entity)).getD name
    .error (.ambiguousRelation scope.root.name name (scope.root.relationsTo target).length l.source)

/-- `[root, name]`: an attribute, a relation, or another entity, whose primary key is compared. -/
def rootName (scope : Scope) (l : Leaf) (name : String) : Except SearchError ResolvedLeaf :=
  match scope.root.attribute? name with
  | some a => scope.compareLeaf l none scope.root a
  | none =>
    match scope.root.relation? name with
    | some r => presenceLeaf l scope.root r
    | none =>
      match scope.registry.entityOrAlias? name with
      | none => .error (.unknownAttribute scope.root.name name l.source)
      | some (target, other) => do
        let r ← scope.defaultTraversal l name
        match target.primaryKeyAttribute?.filter fun a => other.all (·.allows a.name) with
        | some a => scope.compareLeaf l (some r) target a
        | none => throw (.unknownAttribute name target.primaryKey l.source)

/-- `[other, name]`: an attribute of an entity over the default way to it. -/
def viaDefault (scope : Scope) (l : Leaf) (entity : Entity) (other : Option EntityAlias)
    (name : String) : Except SearchError ResolvedLeaf := do
  let r ← scope.defaultTraversal l l.entity
  if !other.all (·.allows name) then
    throw (.unknownAttribute l.entity name l.source)
  match entity.attribute? name with
  | some a => scope.compareLeaf l (some r) entity a
  | none =>
    if (entity.relation? name).isSome then throw (tooDeep l 2)
    else throw (.unknownAttribute l.entity name l.source)

/-- `[root, relation, name]`. -/
def viaRelation (scope : Scope) (l : Leaf) (relation name : String) :
    Except SearchError ResolvedLeaf :=
  match scope.root.relation? relation with
  | none => .error (.unknownRelation scope.root.name relation l.source)
  | some r =>
    match scope.registry.entity? r.target with
    | none => .error (.unknownEntity r.target l.source)
    | some target =>
      match target.attribute? name with
      | some a => scope.compareLeaf l (some r) target a
      | none =>
        if (target.relation? name).isSome then .error (tooDeep l 2)
        else .error (.unknownAttribute target.name name l.source)

def leaf (scope : Scope) (l : Leaf) : Except SearchError ResolvedLeaf :=
  if maxHops < l.hops then .error (tooDeep l l.hops)
  else
    match scope.registry.searchableOrAlias? l.entity with
    | none => .error (.unknownEntity l.entity l.source)
    | some (entity, other) =>
      match l.path with
      | [first, name] =>
        if first = scope.root.name then scope.rootName l name
        else scope.viaDefault l entity other name
      | [first, relation, name] =>
        if first = scope.root.name then scope.viaRelation l relation name
        else .error (tooDeep l 2)
      | _ => .error (.malformed .pathTooShort l.source)

mutual

/-- Resolve every leaf, from left to right, up to the first that fails. -/
def resolve (scope : Scope) : Filter → Except SearchError ResolvedFilter
  | .leaf l => .leaf <$> scope.leaf l
  | .not child => .not <$> scope.resolve child
  | .and children => .and <$> scope.resolveAll children
  | .or children => .or <$> scope.resolveAll children

def resolveAll (scope : Scope) : List Filter → Except SearchError (List ResolvedFilter)
  | [] => .ok []
  | child :: rest => do
    let first ← scope.resolve child
    let others ← scope.resolveAll rest
    pure (first :: others)

end

end Scope

end FieldSearch
