import FieldSearch.Proofs.Sql.Lexing

/-!
# The grammar of conditions

How the tokens of a condition are read: disjunction binds loosest, then conjunction, then negation,
and comparisons bind closest. What is read has names for its rows and numbers for its operands,
as they stand in the text; it knows nothing of the plan that the text was made for.
-/

namespace FieldSearch.Sql

/-- A column as a text refers to it, by the name of its row. -/
structure Reference where
  row : String
  column : String
  deriving DecidableEq

/-- A table in a `FROM` part with the name that its rows have. -/
structure Source where
  table : String
  row : String
  deriving DecidableEq

inductive Expr where
  | literal (value : Bool)
  | compare (left : Reference) (comparison : Comparison) (placeholder : Nat)
  | equal (left right : Reference)
  | isIn (left : Reference) (placeholders : List Nat)
  | isNull (column : Reference)
  | isNotNull (column : Reference)
  /-- Rows of the sources, one of each, on which a condition is true. -/
  | exist (sources : List Source) (condition : Expr)
  | not (inner : Expr)
  | and (left right : Expr)
  | or (left right : Expr)
  deriving DecidableEq

namespace Expr

def expect (t : Token) : List Token → Option (List Token)
  | [] => none
  | u :: rest => if u = t then some rest else none

def readReference : List Token → Option (Reference × List Token)
  | .word row :: .symbol "." :: .quoted column :: rest => some (⟨row, column⟩, rest)
  | _ => none

def readSource : List Token → Option (Source × List Token)
  | .quoted table :: .word "AS" :: .word row :: rest => some (⟨table, row⟩, rest)
  | _ => none

/-- The placeholders of a list up to the parenthesis that closes it. -/
def readPlaceholders : List Token → Option (List Nat × List Token)
  | .placeholder n :: .symbol ")" :: rest => some ([n], rest)
  | .placeholder n :: .symbol "," :: rest => do
    let (ns, rest) ← readPlaceholders rest
    pure (n :: ns, rest)
  | _ => none

/-- Items with commas between them, at most `fuel` of them. -/
def readList {α : Type} (item : List Token → Option (α × List Token)) (fuel : Nat)
    (ts : List Token) : Option (List α × List Token) :=
  match fuel with
  | 0 => none
  | fuel + 1 => do
    let (first, ts) ← item ts
    match expect (.symbol ",") ts with
    | none => some ([first], ts)
    | some ts => do
      let (others, ts) ← readList item fuel ts
      pure (first :: others, ts)

def comparison? : Token → Option Comparison
  | .symbol "=" => some .eq
  | .symbol "<>" => some .ne
  | .symbol "<" => some .lt
  | .symbol "<=" => some .le
  | .symbol ">" => some .gt
  | .symbol ">=" => some .ge
  | .word "LIKE" => some .like
  | .word "REGEXP" => some .regex
  | _ => none

/-- What a column is tested for. -/
def readTail (c : Reference) : List Token → Option (Expr × List Token)
  | .word "IS" :: .word "NULL" :: rest => some (isNull c, rest)
  | .word "IS" :: .word "NOT" :: .word "NULL" :: rest => some (isNotNull c, rest)
  | .word "IN" :: .symbol "(" :: rest => do
    let (ns, rest) ← readPlaceholders rest
    pure (isIn c ns, rest)
  | t :: .placeholder n :: rest => do pure (compare c (← comparison? t) n, rest)
  | .symbol "=" :: rest => do
    let (d, rest) ← readReference rest
    pure (equal c d, rest)
  | _ => none

mutual

/-- Read an expression; `fuel` bounds the depth of the calls. -/
def readExpr (fuel : Nat) (ts : List Token) : Option (Expr × List Token) :=
  match fuel with
  | 0 => none
  | fuel + 1 => do
    let (left, rest) ← readConjunction fuel ts
    readDisjuncts fuel left rest

def readDisjuncts (fuel : Nat) (left : Expr) (ts : List Token) : Option (Expr × List Token) :=
  match fuel with
  | 0 => none
  | fuel + 1 =>
    match expect (.word "OR") ts with
    | none => some (left, ts)
    | some ts => do
      let (right, rest) ← readConjunction fuel ts
      readDisjuncts fuel (or left right) rest

def readConjunction (fuel : Nat) (ts : List Token) : Option (Expr × List Token) :=
  match fuel with
  | 0 => none
  | fuel + 1 => do
    let (left, rest) ← readNegation fuel ts
    readConjuncts fuel left rest

def readConjuncts (fuel : Nat) (left : Expr) (ts : List Token) : Option (Expr × List Token) :=
  match fuel with
  | 0 => none
  | fuel + 1 =>
    match expect (.word "AND") ts with
    | none => some (left, ts)
    | some ts => do
      let (right, rest) ← readNegation fuel ts
      readConjuncts fuel (and left right) rest

def readNegation (fuel : Nat) (ts : List Token) : Option (Expr × List Token) :=
  match fuel with
  | 0 => none
  | fuel + 1 =>
    match expect (.word "NOT") ts with
    | none => readTest fuel ts
    | some ts => do
      let (inner, rest) ← readNegation fuel ts
      pure (not inner, rest)

def readTest (fuel : Nat) (ts : List Token) : Option (Expr × List Token) :=
  match fuel with
  | 0 => none
  | fuel + 1 =>
    match ts with
    | .symbol "(" :: ts => do
      let (inner, ts) ← readExpr fuel ts
      let ts ← expect (.symbol ")") ts
      pure (inner, ts)
    | .word w :: rest =>
      if w = "0" then some (literal false, rest)
      else if w = "1" then some (literal true, rest)
      else if w = "EXISTS" then do
        let ts ← expect (.symbol "(") rest
        let (inner, ts) ← readSelect fuel ts
        let ts ← expect (.symbol ")") ts
        pure (inner, ts)
      else do
        let (c, ts) ← readReference (.word w :: rest)
        readTail c ts
    | _ => none

/-- Read a statement of which it is asked whether it has rows. -/
def readSelect (fuel : Nat) (ts : List Token) : Option (Expr × List Token) :=
  match fuel with
  | 0 => none
  | fuel + 1 => do
    let ts ← expect (.word "SELECT") ts
    let ts ← expect (.word "1") ts
    let ts ← expect (.word "FROM") ts
    let (source, ts) ← readSource ts
    let (joins, ts) ← readJoins fuel ts
    let ts ← expect (.word "WHERE") ts
    let (condition, ts) ← readExpr fuel ts
    let condition := joins.foldr (fun join e => and join.2 e) condition
    pure (exist (source :: joins.map (·.1)) condition, ts)

/-- The further tables of a statement, each with the condition on which its rows are joined. -/
def readJoins (fuel : Nat) (ts : List Token) : Option (List (Source × Expr) × List Token) :=
  match fuel with
  | 0 => none
  | fuel + 1 =>
    match expect (.word "JOIN") ts with
    | none => some ([], ts)
    | some ts => do
      let (source, ts) ← readSource ts
      let ts ← expect (.word "ON") ts
      let (on, ts) ← readExpr fuel ts
      let (joins, ts) ← readJoins fuel ts
      pure ((source, on) :: joins, ts)

end

/-- Read the whole text as a condition. -/
def ofText? (text : String) : Option Expr := do
  let ts ← tokens text
  let (e, rest) ← readExpr (4 * ts.length + 4) ts
  if rest.isEmpty then some e else none

/-- Nothing follows the condition of a statement but its order and its window. -/
def endsCondition : List Token → Bool
  | [] => true
  | t :: _ => t == .word "ORDER" || t == .word "LIMIT"

/-- Read the condition of a statement. -/
def ofStatement? (text : String) : Option Expr := do
  let ts ← tokens text
  let ts ← expect (.word "WHERE") (ts.dropWhile (· != .word "WHERE"))
  let (e, rest) ← readExpr (4 * ts.length + 4) ts
  if endsCondition rest then some e else none

end Expr

end FieldSearch.Sql
