import FieldSearch.Sql.Render
import FieldSearch.Store.Condition
import FieldSearch.Store.Sorting

/-!
# Running statements

The rows of a table are visited one after another, those that fulfil the condition are put in
order, and the rows of the page are returned. Rows that the order does not tell apart stay as they
were visited: by number, or by key where the key is what they were found by, and one alternative
after another where each of them finds its rows by the key.
-/

namespace FieldSearch

open Sql

namespace Sql.Condition

mutual

/-- The parts of which all have to be true. -/
def conjuncts : Condition → List Condition
  | and parts => allConjuncts parts
  | c => [c]

def allConjuncts : List Condition → List Condition
  | [] => []
  | part :: rest => part.conjuncts ++ allConjuncts rest

end

mutual

/-- Rows of other tables are looked at. -/
def looksElsewhere : Condition → Bool
  | existsWith _ _ => true
  | existsAny _ => true
  | existsNone _ => true
  | not inner => inner.looksElsewhere
  | and parts => someLooksElsewhere parts
  | or parts => someLooksElsewhere parts
  | _ => false

def someLooksElsewhere : List Condition → Bool
  | [] => false
  | part :: rest => part.looksElsewhere || someLooksElsewhere rest

end

mutual

def columns : Condition → List ColumnName
  | compare c _ _ => [c]
  | isIn c _ => [c]
  | isNull c => [c]
  | isNotNull c => [c]
  | existsWith rows inner => rows.inner :: rows.outer :: inner.columns
  | existsAny rows => [rows.inner, rows.outer]
  | existsNone rows => [rows.inner, rows.outer]
  | not inner => inner.columns
  | and parts => allColumns parts
  | or parts => allColumns parts

def allColumns : List Condition → List ColumnName
  | [] => []
  | part :: rest => part.columns ++ allColumns rest

end

end Sql.Condition

/-- A text that fits the pattern begins with a certain character. -/
def Sql.Value.hasFixedStart : Value → Bool
  | text p =>
    match beforeNul p with
    | [] => false
    | c :: _ => c != '%' && c != '_'
  | _ => false

/-- Keys that compare so with the operand stand together in the order of keys. -/
def Sql.Value.isRange (comparison : Comparison) (operand : Value) : Bool :=
  match comparison with
  | .eq | .lt | .le | .gt | .ge => true
  | .like => operand.hasFixedStart
  | .ne | .regex | .isIn => false

namespace Sql.Condition

mutual

/-- The rows can be found by the key. -/
def isByKey (params : List Value) (isKey : ColumnName → Bool) : Condition → Bool
  | compare c comparison n => isKey c && Value.isRange comparison (Store.operand params n)
  | isIn c _ => isKey c
  | isNull c => isKey c
  | and parts => someByKey params isKey parts
  | or parts => allByKey params isKey parts
  | _ => false

def someByKey (params : List Value) (isKey : ColumnName → Bool) : List Condition → Bool
  | [] => false
  | part :: rest => part.isByKey params isKey || someByKey params isKey rest

def allByKey (params : List Value) (isKey : ColumnName → Bool) : List Condition → Bool
  | [] => true
  | part :: rest => part.isByKey params isKey && allByKey params isKey rest

end

/-- The conjuncts in the order in which they are tested: those by which rows are found, then those
on the row alone, then those that look elsewhere. -/
def arranged (params : List Value) (isKey : ColumnName → Bool) (c : Condition) : List Condition :=
  let (finding, others) := c.conjuncts.partition (·.isByKey params isKey)
  let (elsewhere, here) := others.partition (·.looksElsewhere)
  finding ++ here ++ elsewhere

mutual

/-- The parts of which one has to be true. -/
def disjuncts : Condition → List Condition
  | or parts => if parts.isEmpty then [or []] else allDisjuncts parts
  | and parts => if parts.length = 1 then allDisjuncts parts else [and parts]
  | c => [c]

def allDisjuncts : List Condition → List Condition
  | [] => []
  | part :: rest => part.disjuncts ++ allDisjuncts rest

end

def isEquality : Condition → Bool
  | compare _ .eq _ => true
  | isIn _ [_] => true
  | _ => false

/-- One search of the keys finds the rows: there is no alternative, or the alternatives are a list
of values. -/
def isOneSearch (c : Condition) : Bool := c.disjuncts.length ≤ 1 || c.disjuncts.all isEquality

mutual

/-- How much of the keys is read to find the rows by them, in quarters; none if they do not help. -/
def keyQuarters? (params : List Value) (isKey : ColumnName → Bool) : Condition → Option Nat
  | compare c comparison n =>
    if isKey c && Value.isRange comparison (Store.operand params n) then
      some (if comparison.isOrdering then 1 else 0)
    else none
  | isIn c _ => if isKey c then some 0 else none
  | isNull c => if isKey c then some 0 else none
  | and parts =>
    if parts.length = 1 then allQuarters? params isKey parts
    else fewestQuarters? params isKey parts
  | or parts => if parts.isEmpty then none else allQuarters? params isKey parts
  | _ => none

def fewestQuarters? (params : List Value) (isKey : ColumnName → Bool) :
    List Condition → Option Nat
  | [] => none
  | part :: rest =>
    let first := if part.isOneSearch then part.keyQuarters? params isKey else none
    first.merge min (fewestQuarters? params isKey rest)

def allQuarters? (params : List Value) (isKey : ColumnName → Bool) :
    List Condition → Option Nat
  | [] => some 0
  | part :: rest => do
    let first ← part.keyQuarters? params isKey
    let others ← allQuarters? params isKey rest
    pure (first + others)

end

/-- The conjunct by which rows are found, with what is read for it: the first that reads no more
than another, where one search comes before several. -/
def finder? (params : List Value) (isKey : ColumnName → Bool) (c : Condition) :
    Option (Nat × Condition) :=
  let (single, several) := c.conjuncts.partition isOneSearch
  let finders := (single ++ several).filterMap fun part =>
    (part.keyQuarters? params isKey).map (·, part)
  finders.find? fun finder => finders.all (finder.1 ≤ ·.1)

end Sql.Condition

namespace Sql

namespace OrderBy

def cmp (o : OrderBy) (a b : Store.Frames) : Ordering :=
  let c := Value.cmpFor o.caseInsensitive (a.value o.column) (b.value o.column)
  match o.direction with
  | .asc => c
  | .desc => c.swap

end OrderBy

/-- The first key that tells two rows apart decides on their order. -/
def cmpRows (order : List OrderBy) (a b : Store.Frames) : Ordering :=
  match order with
  | [] => .eq
  | o :: rest => (o.cmp a b).then (cmpRows rest a b)

def Output.columns : Output → List ColumnName
  | column c => [c]
  | count => []

/-- The columns that a statement mentions. -/
def Select.columns (q : Select) : List ColumnName :=
  q.output.columns ++ q.condition.columns ++ q.order.map (·.column)

/-- The number of rows that a value stands for; below zero there are none. -/
def Value.toCount : Value → Nat
  | integer n => n.toInt.toNat
  | _ => 0

/-- The number of rows to which a limit restricts the result. A negative limit is none. -/
def Value.limit? : Value → Option Nat
  | integer n => if n.toInt < 0 then none else some n.toInt.toNat
  | _ => some 0

def Window.slice {α : Type} (w : Window) (params : List Value) (rows : List α) : List α :=
  let rows := rows.drop (Store.operand params w.offset).toCount
  (Store.operand params w.limit).limit?.elim rows rows.take

end Sql

namespace Store

namespace Table

/-- The column is the primary key. -/
def isKey (t : Table) (row : RowName) (c : ColumnName) : Bool :=
  c.row == row && t.definition.keyIndex?.isSome &&
    t.definition.columnIndex? c.column == t.definition.keyIndex?

def keyOf (t : Table) (r : Row) : Value := (t.definition.keyIndex?).elim .null r.cell

def byKey (t : Table) : List Row :=
  sortBy (fun a b => (t.keyOf a).cmp (t.keyOf b) != .gt) t.rows

/-- Rows without a key are left out. -/
def needsKey (t : Table) (row : RowName) : Condition → Bool
  | .isNotNull c => t.isKey row c
  | _ => false

/-- All columns of the row that the statement mentions are the key. -/
def mentionsOnlyKey (t : Table) (q : Select) : Bool :=
  (q.columns.filter (·.row == q.source.row)).all (t.isKey q.source.row)

/-- The statement is about keys only, and there is more in the rows or there are rows without. -/
def isAboutKeys (t : Table) (q : Select) : Bool :=
  t.mentionsOnlyKey q &&
    (1 < t.definition.columns.length || q.condition.conjuncts.any (t.needsKey q.source.row))

/-- How much of the keys may be read by several searches before all rows are read instead. -/
def mostQuarters (t : Table) (q : Select) : Nat :=
  if t.definition.numberIndex?.isSome || t.mentionsOnlyKey q then 3 else 2

/-- All rows in the order in which they are read. -/
def scanned (t : Table) (q : Select) : List Row := if t.isAboutKeys q then t.byKey else t.rows

end Table

def framesOf (t : Table) (q : Select) (r : Row) : Frames := [⟨q.source.row, t.definition, r.cells⟩]

/-- The condition is tested on a row and true. -/
def holds (s : Store) (t : Table) (params : List Value) (q : Select) (c : Condition) (r : Row) :
    Bool :=
  match c.evalsTo s params true (framesOf t q r) with
  | .ok found => found
  | .error _ => false

/-- The rows on which the first condition holds, then those of the others on which the next one
does, and so on. -/
def inTurn (holds : Condition → Row → Bool) : List Condition → List Row → List Row
  | [], rows => rows
  | c :: rest, rows => rows.filter (holds c) ++ inTurn holds rest (rows.filter (!holds c ·))

/-- The rows in the order in which they are visited. -/
def visited (s : Store) (t : Table) (params : List Value) (q : Select) : List Row :=
  match q.condition.finder? params (t.isKey q.source.row) with
  | none => t.scanned q
  | some (quarters, part) =>
    if part.isOneSearch then t.byKey
    else if quarters ≤ t.mostQuarters q then
      inTurn (s.holds t params q) part.disjuncts t.byKey
    else t.scanned q

/-- All names in the statement refer to something. -/
def isBound (s : Store) (t : Table) (q : Select) : Bool :=
  let fs : Frames := [t.frame q.source.row]
  q.condition.isBound s fs && (q.output.columns ++ q.order.map (·.column)).all fs.has

/-- Those of the rows on which all conditions are true. -/
def filter (s : Store) (params : List Value) (conditions : List Condition) :
    List Frames → Except StoreError (List Frames)
  | [] => .ok []
  | fs :: rest => do
    let found ← Condition.everyEvalsTo s params true fs conditions
    let others ← filter s params conditions rest
    pure (if found then fs :: others else others)

def result (params : List Value) (q : Select) (rows : List Frames) : List Value :=
  match q.output with
  | .count => [.ofCount rows.length]
  | .column c =>
    let ordered := sortBy (fun a b => cmpRows q.order a b != .gt) rows
    ((q.window.elim ordered (·.slice params ordered)).map (·.value c))

def run (s : Store) (f : Fragment) : Except StoreError (List Value) := do
  let q := f.select
  match s.table? q.source.table with
  | none => throw .malformed
  | some t =>
    if hasNul f.text || !s.isBound t q then throw .malformed
    let conditions := q.condition.arranged f.params (t.isKey q.source.row)
    let rows ← s.filter f.params conditions ((s.visited t f.params q).map (framesOf t q))
    pure (result f.params q rows)

end Store

end FieldSearch
