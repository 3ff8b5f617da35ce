/-!
# Pattern syntax

Regular expressions as they are written: classes still have their parts, and flags stand where they
were set. What the parts match is settled when a pattern is compiled.
-/

namespace FieldSearch.Pattern

inductive Flag where
  | caseInsensitive
  | multiLine
  | dotAll
  | swapGreed
  | unicode
  | crlf
  | verbose
  deriving DecidableEq

/-- Flags in writing order, each switched on or off. -/
abbrev Settings := List (Flag × Bool)

/-- A character; one written with two hexadecimal digits stands for a byte if Unicode is off. -/
structure Literal where
  char : Char
  isByte : Bool
  deriving DecidableEq

inductive Boundary where
  | lineStart
  | lineEnd
  | textStart
  | textEnd
  | word
  | notWord
  | wordStart
  | wordEnd
  | wordStartHalf
  | wordEndHalf
  deriving DecidableEq

/-- The classes `\d`, `\s` and `\w`. -/
inductive Shorthand where
  | digit
  | space
  | word
  deriving DecidableEq

/-- The classes `[:name:]` within brackets. -/
inductive AsciiClass where
  | alnum
  | alpha
  | ascii
  | blank
  | cntrl
  | digit
  | graph
  | lower
  | print
  | punct
  | space
  | upper
  | word
  | xdigit
  deriving DecidableEq

inductive SetOperation where
  | intersection
  | difference
  | symmetricDifference
  deriving DecidableEq

/-- A class outside of brackets, or a part of one. A property is a name, or a name and a value. -/
inductive ClassAtom where
  | shorthand (kind : Shorthand) (negated : Bool)
  | property (name : String) (value : Option String) (negated : Bool)
  deriving DecidableEq

/-- What stands between brackets. -/
inductive ClassSet where
  | literal (char : Literal)
  | range (first last : Literal)
  | ascii (kind : AsciiClass) (negated : Bool)
  | atom (a : ClassAtom)
  | nested (negated : Bool) (inner : ClassSet)
  | union (parts : List ClassSet)
  | combine (operation : SetOperation) (left right : ClassSet)

inductive Node where
  | literal (char : Literal)
  | dot
  | boundary (kind : Boundary)
  | atom (a : ClassAtom)
  | bracketed (negated : Bool) (set : ClassSet)
  /-- Flags set for the rest of the group. -/
  | flags (settings : Settings)
  | repetition (body : Node) (least : Nat) (most : Option Nat)
  /-- A group; one that captures may have a name. -/
  | group (captures : Bool) (name : Option String) (settings : Settings) (body : Node)
  | concat (parts : List Node)
  | alternation (parts : List Node)

/-- The parts of a union taken together; a part by itself is no union. -/
def ClassSet.ofParts : List ClassSet → ClassSet
  | [part] => part
  | parts => .union parts

namespace Node

def ofParts : List Node → Node
  | [part] => part
  | parts => .concat parts

def ofBranches : List Node → Node
  | [branch] => branch
  | branches => .alternation branches

end Node

mutual

/-- The nesting of a class: brackets, unions and operations count, single characters do not. -/
def ClassSet.nesting : ClassSet → Nat
  | .literal _ => 0
  | .range _ _ => 0
  | .ascii _ _ => 0
  | .atom _ => 0
  | .nested _ inner => inner.nesting + 1
  | .union [] => 0
  | .union (part :: rest) => ClassSet.nestingOf (part :: rest) + 1
  | .combine _ left right => max left.nesting right.nesting + 1

def ClassSet.nestingOf : List ClassSet → Nat
  | [] => 0
  | part :: rest => max part.nesting (ClassSet.nestingOf rest)

end

mutual

/-- The nesting of a pattern; an empty sequence counts as nothing. -/
def Node.nesting : Node → Nat
  | .literal _ => 0
  | .dot => 0
  | .boundary _ => 0
  | .atom _ => 0
  | .bracketed _ set => set.nesting + 1
  | .flags _ => 0
  | .repetition body _ _ => body.nesting + 1
  | .group _ _ _ body => body.nesting + 1
  | .concat [] => 0
  | .concat (part :: rest) => Node.nestingOf (part :: rest) + 1
  | .alternation [] => 0
  | .alternation (part :: rest) => Node.nestingOf (part :: rest) + 1

def Node.nestingOf : List Node → Nat
  | [] => 0
  | part :: rest => max part.nesting (Node.nestingOf rest)

end

mutual

/-- The names of the groups from left to right. -/
def Node.groupNames : Node → List String
  | .repetition body _ _ => body.groupNames
  | .group _ name _ body => name.toList ++ body.groupNames
  | .concat parts => Node.groupNamesOf parts
  | .alternation parts => Node.groupNamesOf parts
  | _ => []

def Node.groupNamesOf : List Node → List String
  | [] => []
  | part :: rest => part.groupNames ++ Node.groupNamesOf rest

end

/-- What a repetition may follow: anything but flags. -/
def Node.isRepeatable : Node → Bool
  | .flags _ => false
  | _ => true

end FieldSearch.Pattern
