import FieldSearch.Pattern.Basic
import FieldSearch.Store.Frame
import FieldSearch.Store.Like

/-!
# Testing conditions

A condition is true, false or unknown. It is asked whether it comes out as wanted, true or false,
and what is unknown comes out as neither. Parts are asked from left to right until the answer is
settled, since a search with a bad pattern fails when it is asked.
-/

namespace FieldSearch

open Sql

/-- The value of a placeholder. -/
def Store.operand (params : List Value) (placeholder : Nat) : Value :=
  params.getD (placeholder - 1) .null

/-- Search a text for a pattern. The pattern is looked at first. -/
def Sql.Value.search (v pattern : Value) : Except StoreError Truth :=
  match pattern with
  | text p =>
    match Pattern.ofText? p with
    | none => .error .badPattern
    | some p =>
      match v with
      | null => .ok none
      | text t => .ok (some (p.isMatch t))
      | _ => .error .notText
  | _ => .error .badPattern

/-- Compare the value of a column with an operand. -/
def Sql.Value.compare (comparison : Comparison) (type : StorageType) (v operand : Value) :
    Except StoreError Truth :=
  let w := type.adapt operand
  match comparison with
  | .eq => .ok (v.equal w)
  | .ne => .ok (test (· != .eq) v w)
  | .lt => .ok (test (· == .lt) v w)
  | .le => .ok (test (· != .gt) v w)
  | .gt => .ok (test (· == .gt) v w)
  | .ge => .ok (test (· != .lt) v w)
  | .like => .ok (v.like operand)
  | .regex => v.search operand
  | .isIn => .error .malformed

namespace Store

def comparison (params : List Value) (fs : Frames) (c : ColumnName) (comparison : Comparison)
    (placeholder : Nat) : Except StoreError Truth :=
  let (type, v) := fs.column c
  v.compare comparison type (operand params placeholder)

def isMember (params : List Value) (fs : Frames) (c : ColumnName) (placeholders : List Nat) :
    Truth :=
  let (type, v) := fs.column c
  Truth.any (placeholders.map fun n => v.equal (type.adapt (operand params n)))

/-- The names that relate rows refer to something, and so do others that need their frames. -/
def isBoundWith (s : Store) (fs : Frames) (rows : Related) (inner : Frames → Bool) : Bool :=
  match s.scope? fs rows with
  | none => false
  | some fs =>
    (rows.join.all fun join => fs.has join.left && fs.has join.right) &&
      fs.has rows.inner && fs.has rows.outer && inner fs

end Store

namespace Sql.Condition

mutual

/-- All names refer to something, and no comparison with one value tests membership. -/
def isBound (s : Store) (fs : Store.Frames) : Condition → Bool
  | compare c comparison _ => fs.has c && comparison != .isIn
  | isIn c _ => fs.has c
  | isNull c => fs.has c
  | isNotNull c => fs.has c
  | existsWith rows inner => s.isBoundWith fs rows fun fs => inner.isBound s fs
  | existsAny rows => s.isBoundWith fs rows fun _ => true
  | existsNone rows => s.isBoundWith fs rows fun _ => true
  | not inner => inner.isBound s fs
  | and parts => allBound s fs parts
  | or parts => allBound s fs parts

def allBound (s : Store) (fs : Store.Frames) : List Condition → Bool
  | [] => true
  | part :: rest => part.isBound s fs && allBound s fs rest

end

mutual

/-- The condition comes out as wanted. -/
def evalsTo (s : Store) (params : List Value) (wanted : Bool) (fs : Store.Frames) :
    Condition → Except StoreError Bool
  | compare c comparison n =>
    (· == some wanted) <$> Store.comparison params fs c comparison n
  | isIn c ns => .ok (Store.isMember params fs c ns == some wanted)
  | isNull c => .ok ((fs.value c).isNull == wanted)
  | isNotNull c => .ok ((fs.value c).isNull != wanted)
  | existsWith rows inner =>
    (· == wanted) <$> (s.related fs rows).anyM fun fs => inner.evalsTo s params true fs
  | existsAny rows => .ok (!(s.related fs rows).isEmpty == wanted)
  | existsNone rows => .ok ((s.related fs rows).isEmpty == wanted)
  | not inner => inner.evalsTo s params (!wanted) fs
  | and parts =>
    if wanted then everyEvalsTo s params true fs parts else someEvalsTo s params false fs parts
  | or parts =>
    if wanted then someEvalsTo s params true fs parts else everyEvalsTo s params false fs parts

def everyEvalsTo (s : Store) (params : List Value) (wanted : Bool) (fs : Store.Frames) :
    List Condition → Except StoreError Bool
  | [] => .ok true
  | part :: rest => do
    if ← part.evalsTo s params wanted fs then everyEvalsTo s params wanted fs rest
    else pure false

def someEvalsTo (s : Store) (params : List Value) (wanted : Bool) (fs : Store.Frames) :
    List Condition → Except StoreError Bool
  | [] => .ok false
  | part :: rest => do
    if ← part.evalsTo s params wanted fs then pure true
    else someEvalsTo s params wanted fs rest

end

end Sql.Condition

end FieldSearch
