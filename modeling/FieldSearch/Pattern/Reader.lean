import FieldSearch.Pattern.Syntax
import FieldSearch.Text.Blank
import FieldSearch.Text.Property

/-!
# Reading patterns

A pattern is read from left to right. In verbose mode blanks and comments may stand between any two
signs of it. There is no look-around and no reference back to a group.
-/

namespace FieldSearch.Pattern

/-- Pass over blanks and comments. -/
def skipBlanks (inComment : Bool) : List Char → List Char
  | [] => []
  | c :: rest =>
    if inComment then skipBlanks (c != '\n') rest
    else if Text.isBlank c then skipBlanks false rest
    else if c = '#' then skipBlanks true rest
    else c :: rest

def skip (verbose : Bool) (cs : List Char) : List Char :=
  if verbose then skipBlanks false cs else cs

def peekBlanks (inComment : Bool) : List Char → Option Char
  | [] => none
  | c :: rest =>
    if Text.isBlank c then peekBlanks inComment rest
    else if !inComment && c == '#' then peekBlanks true rest
    else some c

/-- The sign after blanks and the first signs of comments. -/
def peek (verbose : Bool) (cs : List Char) : Option Char :=
  if verbose then (peekBlanks false cs).or cs.head? else cs.head?

def hexDigit? (c : Char) : Option Nat :=
  if c.isDigit then some (c.toNat - 48)
  else if 'a' ≤ c ∧ c ≤ 'f' then some (c.toNat - 87)
  else if 'A' ≤ c ∧ c ≤ 'F' then some (c.toNat - 55)
  else none

/-- The character of a code point; surrogates are none. -/
def charOf? (n : Nat) : Option Char := if n.isValidChar then some (Char.ofNat n) else none

/-- Read a fixed number of hexadecimal digits. -/
def readHexDigits (verbose : Bool) (value : Nat) : Nat → List Char → Option (Nat × List Char)
  | 0, cs => some (value, cs)
  | _ + 1, [] => none
  | count + 1, c :: rest => do
    let digit ← hexDigit? c
    readHexDigits verbose (value * 16 + digit) count (skip verbose rest)

/-- Read hexadecimal digits up to a brace. -/
def readHexBrace (verbose : Bool) (value : Option Nat) : Nat → List Char → Option (Nat × List Char)
  | 0, _ => none
  | fuel + 1, cs =>
    match skip verbose cs with
    | [] => none
    | '}' :: rest => value.map fun n => (n, skip verbose rest)
    | c :: rest => do
      let digit ← hexDigit? c
      readHexBrace verbose (some (value.getD 0 * 16 + digit)) fuel rest

def readHex (verbose : Bool) (digits : Nat) (cs : List Char) : Option (Literal × List Char) :=
  match skip verbose cs with
  | '{' :: rest => do
    let (n, rest) ← readHexBrace verbose none (rest.length + 1) rest
    pure (⟨← charOf? n, false⟩, rest)
  | cs => do
    let (n, rest) ← readHexDigits verbose 0 digits cs
    pure (⟨← charOf? n, digits = 2⟩, rest)

/-- Read the name of a property up to a brace. -/
def readBraced (verbose : Bool) (name : List Char) :
    Nat → List Char → Option (List Char × List Char)
  | 0, _ => none
  | fuel + 1, cs =>
    match skip verbose cs with
    | [] => none
    | '}' :: rest => some (name.reverse, rest)
    | c :: rest => readBraced verbose (c :: name) fuel rest

/-- Split at the first place where a sign stands. -/
def splitAtSign (sign : List Char) : List Char → Option (List Char × List Char)
  | [] => none
  | c :: rest =>
    if sign.isPrefixOf (c :: rest) then some ([], (c :: rest).drop sign.length)
    else (splitAtSign sign rest).map fun (before, after) => (c :: before, after)

/-- A property with its value after `:` or `=`; `!=` reads like `=`. -/
def propertyAtom (negated : Bool) (name : List Char) : ClassAtom :=
  match ((splitAtSign ['!', '='] name).or (splitAtSign [':'] name)).or (splitAtSign ['='] name) with
  | some (before, after) => .property (String.ofList before) (some (String.ofList after)) negated
  | none => .property (String.ofList name) none negated

def readProperty (verbose negated : Bool) (cs : List Char) : Option (ClassAtom × List Char) :=
  match skip verbose cs with
  | [] => none
  | '{' :: rest => do
    let (name, rest) ← readBraced verbose [] (rest.length + 1) rest
    pure (propertyAtom negated name, rest)
  | '\\' :: _ => none
  | c :: rest => some (.property (String.singleton c) none negated, skip verbose rest)

/-- What one escape or one character can be. -/
inductive Primitive where
  | literal (char : Literal)
  | boundary (kind : Boundary)
  | atom (a : ClassAtom)

def boundaryName? (name : List Char) : Option Boundary :=
  match String.ofList name with
  | "start" => some .wordStart
  | "end" => some .wordEnd
  | "start-half" => some .wordStartHalf
  | "end-half" => some .wordEndHalf
  | _ => none

def isNameChar (c : Char) : Bool := c.isAlpha || c == '-'

def readBoundaryName (verbose : Bool) (name : List Char) :
    Nat → List Char → Option (Boundary × List Char)
  | 0, _ => none
  | _ + 1, [] => none
  | _ + 1, '}' :: rest => (boundaryName? name.reverse).map (·, rest)
  | fuel + 1, c :: rest =>
    if isNameChar c then readBoundaryName verbose (c :: name) fuel (skip verbose rest) else none

/-- Read what follows `\b`: the name of a special boundary, or nothing that belongs to it. -/
def readBoundary (verbose : Bool) (cs : List Char) : Option (Primitive × List Char) :=
  match cs with
  | '{' :: rest =>
    match skip verbose rest with
    | [] => none
    | c :: inner =>
      if isNameChar c then
        (readBoundaryName verbose [] (inner.length + 2) (c :: inner)).map fun (kind, rest) =>
          (.boundary kind, rest)
      else some (.boundary .word, cs)
  | cs => some (.boundary .word, cs)

/-- The signs that stand for themselves after a backslash: ASCII, but no letter, digit or angle. -/
def isEscapable (c : Char) : Bool :=
  c.toNat < 0x80 && !c.isAlphanum && c != '<' && c != '>'

def simpleEscape? (c : Char) : Option Primitive :=
  match c with
  | 'a' => some (.literal ⟨'\x07', false⟩)
  | 'f' => some (.literal ⟨'\x0c', false⟩)
  | 't' => some (.literal ⟨'\t', false⟩)
  | 'n' => some (.literal ⟨'\n', false⟩)
  | 'r' => some (.literal ⟨'\r', false⟩)
  | 'v' => some (.literal ⟨'\x0b', false⟩)
  | 'd' => some (.atom (.shorthand .digit false))
  | 'D' => some (.atom (.shorthand .digit true))
  | 's' => some (.atom (.shorthand .space false))
  | 'S' => some (.atom (.shorthand .space true))
  | 'w' => some (.atom (.shorthand .word false))
  | 'W' => some (.atom (.shorthand .word true))
  | 'A' => some (.boundary .textStart)
  | 'z' => some (.boundary .textEnd)
  | 'B' => some (.boundary .notWord)
  | '<' => some (.boundary .wordStart)
  | '>' => some (.boundary .wordEnd)
  | c => if isEscapable c then some (.literal ⟨c, false⟩) else none

/-- Read what follows a backslash. -/
def readEscape (verbose : Bool) : List Char → Option (Primitive × List Char)
  | [] => none
  | 'x' :: rest => (readHex verbose 2 rest).map fun (l, rest) => (.literal l, rest)
  | 'u' :: rest => (readHex verbose 4 rest).map fun (l, rest) => (.literal l, rest)
  | 'U' :: rest => (readHex verbose 8 rest).map fun (l, rest) => (.literal l, rest)
  | 'p' :: rest => (readProperty verbose false rest).map fun (a, rest) => (.atom a, rest)
  | 'P' :: rest => (readProperty verbose true rest).map fun (a, rest) => (.atom a, rest)
  | 'b' :: rest => readBoundary verbose rest
  | c :: rest => (simpleEscape? c).map (·, rest)

def asciiClass? (name : List Char) : Option AsciiClass :=
  match String.ofList name with
  | "alnum" => some .alnum
  | "alpha" => some .alpha
  | "ascii" => some .ascii
  | "blank" => some .blank
  | "cntrl" => some .cntrl
  | "digit" => some .digit
  | "graph" => some .graph
  | "lower" => some .lower
  | "print" => some .print
  | "punct" => some .punct
  | "space" => some .space
  | "upper" => some .upper
  | "word" => some .word
  | "xdigit" => some .xdigit
  | _ => none

/-- Read `:name:]`, which need not be there. -/
def readAscii? (cs : List Char) : Option (ClassSet × List Char) :=
  match cs with
  | ':' :: rest =>
    let (negated, rest) := match rest with
      | '^' :: rest => (true, rest)
      | rest => (false, rest)
    match rest.dropWhile (· != ':') with
    | ':' :: ']' :: after =>
      (asciiClass? (rest.takeWhile (· != ':'))).map fun kind => (.ascii kind negated, after)
    | _ => none
  | _ => none

def readClassItem (verbose : Bool) : List Char → Option (Primitive × List Char)
  | [] => none
  | '\\' :: rest => readEscape verbose rest
  | c :: rest => some (.literal ⟨c, false⟩, rest)

def Primitive.classSet? : Primitive → Option ClassSet
  | literal l => some (.literal l)
  | boundary _ => none
  | atom a => some (.atom a)

def Primitive.literal? : Primitive → Option Literal
  | literal l => some l
  | _ => none

/-- Read a member of a class, or two with `-` between them. -/
def readClassRange (verbose : Bool) (cs : List Char) : Option (ClassSet × List Char) := do
  let (first, rest) ← readClassItem verbose cs
  match skip verbose rest with
  | [] => none
  | '-' :: after =>
    if peek verbose after == some ']' || peek verbose after == some '-' then
      pure (← first.classSet?, '-' :: after)
    else
      let (last, rest) ← readClassItem verbose (skip verbose after)
      let first ← first.literal?
      let last ← last.literal?
      if first.char ≤ last.char then pure (.range first last, rest) else none
  | rest => pure (← first.classSet?, rest)

/-- The first part of an operation, with what the operation is. -/
abbrev Pending := Option (SetOperation × ClassSet)

def combine (pending : Pending) (parts : List ClassSet) : ClassSet :=
  match pending with
  | none => .ofParts parts.reverse
  | some (operation, left) => .combine operation left (.ofParts parts.reverse)

/-- Read the dashes with which a class may begin. -/
def readDashes (verbose : Bool) (parts : List ClassSet) :
    Nat → List Char → List ClassSet × List Char
  | 0, cs => (parts, cs)
  | fuel + 1, '-' :: rest =>
    readDashes verbose (.literal ⟨'-', false⟩ :: parts) fuel (skip verbose rest)
  | _ + 1, cs => (parts, cs)

/-- Read what opens a class: `^`, dashes, and a bracket that stands for itself. -/
def readOpening (verbose : Bool) (cs : List Char) : Bool × List ClassSet × List Char :=
  let (negated, cs) := match skip verbose cs with
    | '^' :: rest => (true, skip verbose rest)
    | cs => (false, cs)
  match readDashes verbose [] cs.length cs with
  | ([], ']' :: rest) => (negated, [.literal ⟨']', false⟩], skip verbose rest)
  | (parts, cs) => (negated, parts, cs)

/-- Read a class up to its closing bracket. -/
def readClass (verbose : Bool) (pending : Pending) (parts : List ClassSet) :
    Nat → List Char → Option (ClassSet × List Char)
  | 0, _ => none
  | fuel + 1, cs =>
    match skip verbose cs with
    | [] => none
    | ']' :: rest => some (combine pending parts, rest)
    | '[' :: rest =>
      match readAscii? rest with
      | some (set, rest) => readClass verbose pending (set :: parts) fuel rest
      | none => do
        let (negated, inner, rest) := readOpening verbose rest
        let (set, rest) ← readClass verbose none inner fuel rest
        readClass verbose pending (.nested negated set :: parts) fuel rest
    | '&' :: '&' :: rest =>
      readClass verbose (some (.intersection, combine pending parts)) [] fuel rest
    | '-' :: '-' :: rest =>
      readClass verbose (some (.difference, combine pending parts)) [] fuel rest
    | '~' :: '~' :: rest =>
      readClass verbose (some (.symmetricDifference, combine pending parts)) [] fuel rest
    | cs => do
      let (set, rest) ← readClassRange verbose cs
      readClass verbose pending (set :: parts) fuel rest

/-- Read a class after its opening bracket. -/
def readBracketed (verbose : Bool) (cs : List Char) : Option (Node × List Char) := do
  let (negated, parts, cs) := readOpening verbose cs
  let (set, rest) ← readClass verbose none parts (cs.length + 1) cs
  pure (.bracketed negated set, rest)

def flag? (c : Char) : Option Flag :=
  match c with
  | 'i' => some .caseInsensitive
  | 'm' => some .multiLine
  | 's' => some .dotAll
  | 'U' => some .swapGreed
  | 'u' => some .unicode
  | 'R' => some .crlf
  | 'x' => some .verbose
  | _ => none

/-- Read flags up to `:` or `)`, which is `true` for the former. No flag stands twice, and a minus
stands before at least one flag. -/
def readFlags (on dangling : Bool) (settings : Settings) :
    List Char → Option (Settings × Bool × List Char)
  | [] => none
  | ':' :: rest => if dangling then none else some (settings.reverse, true, rest)
  | ')' :: rest => if dangling then none else some (settings.reverse, false, rest)
  | '-' :: rest => if on then readFlags false true settings rest else none
  | c :: rest => do
    let flag ← flag? c
    if settings.any (·.1 == flag) then none
    else readFlags on false ((flag, on) :: settings) rest

def isGroupChar (isFirst : Bool) (c : Char) : Bool :=
  c == '_' || Text.alphabetic.has c ||
    (!isFirst && (c == '.' || c == '[' || c == ']' || Text.numeric.has c))

/-- Read the name of a group up to its closing angle. -/
def readGroupName (name : List Char) : List Char → Option (String × List Char)
  | [] => none
  | '>' :: rest => if name.isEmpty then none else some (String.ofList name.reverse, rest)
  | c :: rest => if isGroupChar name.isEmpty c then readGroupName (c :: name) rest else none

/-- What an opening parenthesis begins. -/
inductive Opening where
  | directive (settings : Settings) (rest : List Char)
  | group (captures : Bool) (name : Option String) (settings : Settings) (rest : List Char)

def readNamed (cs : List Char) : Option Opening :=
  (readGroupName [] cs).map fun (name, rest) => .group true (some name) [] rest

def readGroup (verbose : Bool) (cs : List Char) : Option Opening :=
  match skip verbose cs with
  | '?' :: '=' :: _ => none
  | '?' :: '!' :: _ => none
  | '?' :: '<' :: '=' :: _ => none
  | '?' :: '<' :: '!' :: _ => none
  | '?' :: 'P' :: '<' :: rest => readNamed rest
  | '?' :: '<' :: rest => readNamed rest
  | '?' :: rest =>
    match readFlags true false [] rest with
    | none => none
    | some (settings, true, rest) => some (.group false none settings rest)
    | some ([], false, _) => none
    | some (settings, false, rest) => some (.directive settings rest)
  | rest => some (.group true none [] rest)

/-- The mode after settings. -/
def verboseAfter (verbose : Bool) (settings : Settings) : Bool :=
  (settings.lookup .verbose).getD verbose

def largestCount : Nat := UInt32.size - 1

/-- Read digits; `value` is what has been read. -/
def readDigits (verbose : Bool) (value : Option Nat) : Nat → List Char → Option Nat × List Char
  | 0, cs => (value, cs)
  | _ + 1, [] => (value, [])
  | fuel + 1, c :: rest =>
    if c.isDigit then
      readDigits verbose (some (value.getD 0 * 10 + (c.toNat - 48))) fuel (skip verbose rest)
    else (value, c :: rest)

/-- Read a number between blanks. -/
def readCount (verbose : Bool) (cs : List Char) : Option (Nat × List Char) := do
  let cs := cs.dropWhile Text.isBlank
  let (value, rest) := readDigits verbose none cs.length cs
  let n ← value
  if n ≤ largestCount then pure (n, skip verbose (rest.dropWhile Text.isBlank)) else none

/-- Read the upper bound of a repetition after the comma. -/
def readMost (verbose : Bool) (cs : List Char) : Option (Option Nat × List Char) :=
  match skip verbose cs with
  | [] => none
  | '}' :: rest => some (none, '}' :: rest)
  | cs => (readCount verbose cs).map fun (n, rest) => (some n, rest)

/-- A question mark after a repetition makes it lazy. -/
def skipLazy : List Char → List Char
  | '?' :: rest => rest
  | cs => cs

/-- Read the bounds of a repetition after the opening brace. -/
def readBounds (verbose : Bool) (cs : List Char) : Option (Nat × Option Nat × List Char) := do
  let (least, rest) ← readCount verbose (skip verbose cs)
  let (most, rest) ← match rest with
    | ',' :: rest => readMost verbose rest
    | rest => some (some least, rest)
  match rest with
  | '}' :: rest =>
    if most.all (least ≤ ·) then pure (least, most, skipLazy (skip verbose rest)) else none
  | _ => none

/-- Repeat the last of the items. -/
def repeatLast (least : Nat) (most : Option Nat) : List Node → Option (List Node)
  | item :: items => if item.isRepeatable then some (.repetition item least most :: items) else none
  | [] => none

def Primitive.node : Primitive → Node
  | literal l => .literal l
  | boundary kind => .boundary kind
  | atom a => .atom a

/-- The node of branches and items that were read last first. -/
def close (branches items : List Node) : Node :=
  .ofBranches (Node.ofParts items.reverse :: branches).reverse

/-- Read up to the end of a group or of the pattern. -/
def readNode (verbose : Bool) (branches items : List Node) :
    Nat → List Char → Option (Node × List Char)
  | 0, _ => none
  | fuel + 1, cs =>
    match skip verbose cs with
    | [] => some (close branches items, [])
    | ')' :: rest => some (close branches items, ')' :: rest)
    | '|' :: rest => readNode verbose (Node.ofParts items.reverse :: branches) [] fuel rest
    | '(' :: rest =>
      match readGroup verbose rest with
      | none => none
      | some (.directive settings rest) =>
        readNode (verboseAfter verbose settings) branches (.flags settings :: items) fuel rest
      | some (.group captures name settings rest) =>
        match readNode (verboseAfter verbose settings) [] [] fuel rest with
        | some (body, ')' :: rest) =>
          readNode verbose branches (.group captures name settings body :: items) fuel rest
        | _ => none
    | '[' :: rest => do
      let (node, rest) ← readBracketed verbose rest
      readNode verbose branches (node :: items) fuel rest
    | '?' :: rest => do
      readNode verbose branches (← repeatLast 0 (some 1) items) fuel (skipLazy rest)
    | '*' :: rest => do
      readNode verbose branches (← repeatLast 0 none items) fuel (skipLazy rest)
    | '+' :: rest => do
      readNode verbose branches (← repeatLast 1 none items) fuel (skipLazy rest)
    | '{' :: rest => do
      let (least, most, rest) ← readBounds verbose rest
      readNode verbose branches (← repeatLast least most items) fuel rest
    | '\\' :: rest => do
      let (primitive, rest) ← readEscape verbose rest
      readNode verbose branches (primitive.node :: items) fuel rest
    | '.' :: rest => readNode verbose branches (.dot :: items) fuel rest
    | '^' :: rest => readNode verbose branches (.boundary .lineStart :: items) fuel rest
    | '$' :: rest => readNode verbose branches (.boundary .lineEnd :: items) fuel rest
    | c :: rest => readNode verbose branches (.literal ⟨c, false⟩ :: items) fuel rest

/-- How deep a pattern may nest. -/
def nestingLimit : Nat := 250

def hasRepeated : List String → Bool
  | [] => false
  | name :: rest => rest.contains name || hasRepeated rest

/-- Read a whole pattern. No two groups have one name. -/
def Node.ofText? (text : String) : Option Node :=
  match readNode false [] [] (text.length + 1) text.toList with
  | some (node, []) =>
    if nestingLimit < node.nesting || hasRepeated node.groupNames then none else some node
  | _ => none

end FieldSearch.Pattern
