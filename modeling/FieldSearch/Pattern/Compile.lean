import FieldSearch.Pattern.Expression
import FieldSearch.Pattern.Property
import FieldSearch.Pattern.Reader
import FieldSearch.Text.Folding

/-!
# Compiling patterns

What a pattern as written matches. Flags hold from where they are set to the end of their group.
Without the Unicode flag classes hold ASCII only, and what could match a part of a character is
refused.
-/

namespace FieldSearch.Pattern

open Text (CharSet)

/-- The flags in force. Greed and the verbose mode change no match. -/
structure Mode where
  caseInsensitive : Bool := false
  multiLine : Bool := false
  dotAll : Bool := false
  unicode : Bool := true
  crlf : Bool := false

namespace Mode

def set (m : Mode) (setting : Flag × Bool) : Mode :=
  match setting.1 with
  | .caseInsensitive => { m with caseInsensitive := setting.2 }
  | .multiLine => { m with multiLine := setting.2 }
  | .dotAll => { m with dotAll := setting.2 }
  | .unicode => { m with unicode := setting.2 }
  | .crlf => { m with crlf := setting.2 }
  | .swapGreed => m
  | .verbose => m

def apply (m : Mode) (settings : Settings) : Mode := settings.foldl set m

/-- Add what differs in case only, where case does not matter. -/
def fold (m : Mode) (s : CharSet) : CharSet :=
  if !m.caseInsensitive then s else if m.unicode then s.foldCase else s.foldAsciiCase

/-- Close a class: fold it, then negate it. -/
def close (m : Mode) (negated : Bool) (s : CharSet) : Option CharSet :=
  let s := if negated then (m.fold s).complement else m.fold s
  if m.unicode || s.isAscii then some s else none

end Mode

/-- A byte above ASCII is no character. -/
def isStrayByte (m : Mode) (l : Literal) : Bool := !m.unicode && l.isByte && 0x80 ≤ l.char.toNat

/-- The character of a literal in a class, where ASCII is needed without Unicode. -/
def classPoint? (m : Mode) (l : Literal) : Option Nat :=
  if m.unicode || l.char.toNat < 0x80 then some l.char.toNat else none

def asciiSet : AsciiClass → CharSet
  | .alnum => .ofText "30-39 41-5A 61-7A"
  | .alpha => .ofText "41-5A 61-7A"
  | .ascii => .ofText "0-7F"
  | .blank => .ofText "9 20"
  | .cntrl => .ofText "0-1F 7F"
  | .digit => .ofText "30-39"
  | .graph => .ofText "21-7E"
  | .lower => .ofText "61-7A"
  | .print => .ofText "20-7E"
  | .punct => .ofText "21-2F 3A-40 5B-60 7B-7E"
  | .space => .ofText "9-D 20"
  | .upper => .ofText "41-5A"
  | .word => .ofText "30-39 41-5A 5F 61-7A"
  | .xdigit => .ofText "30-39 41-46 61-66"

def shorthandSet (unicode : Bool) : Shorthand → CharSet
  | .digit => if unicode then Text.category "Nd" else asciiSet .digit
  | .space => if unicode then Text.whiteSpace else asciiSet .space
  | .word => if unicode then Text.wordChars else asciiSet .word

def negateIf (negated : Bool) (s : CharSet) : CharSet := if negated then s.complement else s

def atomSet? (m : Mode) : ClassAtom → Option CharSet
  | .shorthand kind negated =>
    let s := negateIf negated (shorthandSet m.unicode kind)
    if m.unicode || s.isAscii then some s else none
  | .property name value negated =>
    if m.unicode then do
      let s ← match value with
        | none => named? name
        | some value => valued? name value
      m.close negated s
    else none

def operate (operation : SetOperation) (left right : CharSet) : CharSet :=
  match operation with
  | .intersection => left.intersection right
  | .difference => left.difference right
  | .symmetricDifference => left.symmetricDifference right

mutual

/-- The characters of what stands in brackets, before case is folded at their end. -/
def ClassSet.compile? (m : Mode) : ClassSet → Option CharSet
  | .literal l => (classPoint? m l).map fun c => .range c c
  | .range first last => do
    let low ← classPoint? m first
    let high ← classPoint? m last
    pure (.range low high)
  | .ascii kind negated => m.close negated (asciiSet kind)
  | .atom a => atomSet? m a
  | .nested negated inner => do m.close negated (← inner.compile? m)
  | .union parts => ClassSet.compileAll? m .empty parts
  | .combine operation left right => do
    let left ← left.compile? m
    let right ← right.compile? m
    pure (operate operation (m.fold left) (m.fold right))

def ClassSet.compileAll? (m : Mode) (sofar : CharSet) : List ClassSet → Option CharSet
  | [] => some sofar
  | part :: rest => do
    let s ← part.compile? m
    ClassSet.compileAll? m (sofar.union s) rest

end

/-- Any character but the ends of lines. -/
def dotSet (m : Mode) : CharSet :=
  if m.dotAll then .all
  else if m.crlf then (CharSet.ofText "A D").complement
  else (CharSet.single '\n').complement

def place (m : Mode) : Boundary → Place
  | .lineStart => if m.multiLine then .lineStart m.crlf else .textStart
  | .lineEnd => if m.multiLine then .lineEnd m.crlf else .textEnd
  | .textStart => .textStart
  | .textEnd => .textEnd
  | .word => .word m.unicode
  | .notWord => .notWord m.unicode
  | .wordStart => .wordStart m.unicode
  | .wordEnd => .wordEnd m.unicode
  | .wordStartHalf => .wordStartHalf m.unicode
  | .wordEndHalf => .wordEndHalf m.unicode

def captureIf (captures : Bool) (e : Expression) : Expression :=
  if captures then .capture e else e

mutual

/-- The expression of a node, with the mode after it. -/
def Node.compile? (m : Mode) : Node → Option (Expression × Mode)
  | .literal l =>
    if isStrayByte m l then none else some (.chars (m.fold (.single l.char)), m)
  | .dot => if m.unicode then some (.chars (dotSet m), m) else none
  | .boundary kind => some (.place (place m kind), m)
  | .atom a => (atomSet? m a).map fun s => (.chars s, m)
  | .bracketed negated set => do
    let s ← m.close negated (← set.compile? m)
    pure (.chars s, m)
  | .flags settings => some (.empty, m.apply settings)
  | .repetition body least most => do
    let (e, m) ← body.compile? m
    pure (e.repeated least most, m)
  | .group captures _ settings body => do
    let (e, _) ← body.compile? (m.apply settings)
    pure (captureIf captures e, m)
  | .concat parts => do
    let (es, m) ← Node.compileAll? m parts
    pure (.concat es, m)
  | .alternation parts => do
    let (es, m) ← Node.compileAll? m parts
    pure (.alternation es, m)

def Node.compileAll? (m : Mode) : List Node → Option (List Expression × Mode)
  | [] => some ([], m)
  | part :: rest => do
    let (e, m) ← part.compile? m
    let (es, m) ← Node.compileAll? m rest
    pure (e :: es, m)

end

end FieldSearch.Pattern
