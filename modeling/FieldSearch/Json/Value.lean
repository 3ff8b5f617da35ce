import FieldSearch.Binary64

/-!
# JSON values

An object lists its members in writing order, so a text with a repeated key still has a value here.
`canonical` is the form in which requests are read: keys in increasing order, each once, the last
of its values kept.
-/

namespace FieldSearch

inductive Json where
  | null
  | bool (value : Bool)
  | int (value : Int)
  | float (value : Binary64)
  | string (text : String)
  | array (items : List Json)
  | object (members : List (String × Json))

namespace Json

instance : Inhabited Json := ⟨null⟩

def isNull : Json → Bool
  | null => true
  | _ => false

def bool? : Json → Option Bool
  | bool b => some b
  | _ => none

def string? : Json → Option String
  | string s => some s
  | _ => none

def array? : Json → Option (List Json)
  | array items => some items
  | _ => none

/-- An integer in the range of signed 64-bit words; a float is no integer, whole or not. -/
def int64? : Json → Option Int64
  | int n =>
    if Int64.minValue.toInt ≤ n ∧ n ≤ Int64.maxValue.toInt then some (Int64.ofInt n) else none
  | _ => none

def uint64? : Json → Option UInt64
  | int n => if 0 ≤ n ∧ n < UInt64.size then some (UInt64.ofNat n.toNat) else none
  | _ => none

def uint32? : Json → Option UInt32
  | int n => if 0 ≤ n ∧ n < UInt32.size then some (UInt32.ofNat n.toNat) else none
  | _ => none

/-- Any number, an integer being rounded. -/
def number? : Json → Option Binary64
  | int n => Binary64.ofInt? n
  | float x => some x
  | _ => none

/-- The value of the first member with this key. -/
def get? (key : String) : Json → Option Json
  | object members => members.lookup key
  | _ => none

/-- The same, a missing member and a member `null` alike. -/
def getNonNull? (key : String) (j : Json) : Option Json :=
  (j.get? key).filter (!·.isNull)

/-- Put a member into a list that is sorted by key; a member with that key is replaced. -/
def insertMember (key : String) (value : Json) : List (String × Json) → List (String × Json)
  | [] => [(key, value)]
  | (k, v) :: rest =>
    if key < k then (key, value) :: (k, v) :: rest
    else if key = k then (k, value) :: rest
    else (k, v) :: insertMember key value rest

mutual

/-- Sort the members of every object, keeping the last of those with one key. -/
def canonical : Json → Json
  | null => null
  | bool b => bool b
  | int n => int n
  | float x => float x
  | string s => string s
  | array items => array (canonicalItems items)
  | object members => object (canonicalMembers [] members)

def canonicalItems : List Json → List Json
  | [] => []
  | item :: rest => canonical item :: canonicalItems rest

/-- Insert the members one after another, so that a later one replaces an earlier one. -/
def canonicalMembers (sorted : List (String × Json)) :
    List (String × Json) → List (String × Json)
  | [] => sorted
  | (key, value) :: rest => canonicalMembers (insertMember key (canonical value) sorted) rest

end

mutual

/-- The number of arrays and objects around the innermost value. -/
def depth : Json → Nat
  | array items => depthItems items + 1
  | object members => depthMembers members + 1
  | _ => 0

def depthItems : List Json → Nat
  | [] => 0
  | item :: rest => max (depth item) (depthItems rest)

def depthMembers : List (String × Json) → Nat
  | [] => 0
  | (_, value) :: rest => max (depth value) (depthMembers rest)

end

/-- An object in canonical order. -/
def record (members : List (String × Json)) : Json :=
  object (members.foldl (fun sorted member => insertMember member.1 member.2 sorted) [])

def strings (texts : List String) : Json := array (texts.map string)

def ofNat (n : Nat) : Json := int n

/-- `null` for nothing. -/
def optional {α : Type} (f : α → Json) : Option α → Json
  | none => null
  | some a => f a

end Json

end FieldSearch
