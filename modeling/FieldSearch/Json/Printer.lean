import FieldSearch.Decimal.Text
import FieldSearch.Json.Value

/-!
# Writing JSON

The compact form has no space at all. The indented form puts every item and member on a line of its
own, two spaces deeper than its container; an empty container stays on one line.
-/

namespace FieldSearch

namespace Json

def hexDigit (n : Nat) : Char := if n < 10 then Char.ofNat (n + 48) else Char.ofNat (n + 87)

/-- Quote, backslash and the control characters are escaped, all others stand for themselves. -/
def escapeChar (c : Char) : List Char :=
  match c with
  | '"' => ['\\', '"']
  | '\\' => ['\\', '\\']
  | '\x08' => ['\\', 'b']
  | '\t' => ['\\', 't']
  | '\n' => ['\\', 'n']
  | '\x0c' => ['\\', 'f']
  | '\r' => ['\\', 'r']
  | c =>
    if c.toNat < 0x20 then
      ['\\', 'u', '0', '0', hexDigit (c.toNat / 16), hexDigit (c.toNat % 16)]
    else [c]

def quote (s : String) : List Char := '"' :: s.toList.flatMap escapeChar ++ ['"']

def intText (n : Int) : List Char :=
  if n < 0 then '-' :: Nat.toDigits 10 n.natAbs else Nat.toDigits 10 n.natAbs

def boolText : Bool → List Char
  | true => ['t', 'r', 'u', 'e']
  | false => ['f', 'a', 'l', 's', 'e']

def nullText : List Char := ['n', 'u', 'l', 'l']

mutual

def compactChars : Json → List Char
  | null => nullText
  | bool b => boolText b
  | int n => intText n
  | float x => x.text Decimal.jsonLayout
  | string s => quote s
  | array items => '[' :: compactItems items ++ [']']
  | object members => '{' :: compactMembers members ++ ['}']

def compactItems : List Json → List Char
  | [] => []
  | [item] => compactChars item
  | item :: rest => compactChars item ++ ',' :: compactItems rest

def compactMembers : List (String × Json) → List Char
  | [] => []
  | [(key, value)] => quote key ++ ':' :: compactChars value
  | (key, value) :: rest => quote key ++ ':' :: compactChars value ++ ',' :: compactMembers rest

end

def compact (j : Json) : String := String.ofList j.compactChars

def newline (indent : Nat) : List Char := '\n' :: List.replicate (2 * indent) ' '

mutual

def indentedChars (indent : Nat) : Json → List Char
  | null => nullText
  | bool b => boolText b
  | int n => intText n
  | float x => x.text Decimal.jsonLayout
  | string s => quote s
  | array [] => ['[', ']']
  | array items => '[' :: indentedItems (indent + 1) items ++ newline indent ++ [']']
  | object [] => ['{', '}']
  | object members => '{' :: indentedMembers (indent + 1) members ++ newline indent ++ ['}']

def indentedItems (indent : Nat) : List Json → List Char
  | [] => []
  | [item] => newline indent ++ indentedChars indent item
  | item :: rest =>
    newline indent ++ indentedChars indent item ++ ',' :: indentedItems indent rest

def indentedMembers (indent : Nat) : List (String × Json) → List Char
  | [] => []
  | [(key, value)] =>
    newline indent ++ quote key ++ ':' :: ' ' :: indentedChars indent value
  | (key, value) :: rest =>
    newline indent ++ quote key ++ ':' :: ' ' :: indentedChars indent value ++
      ',' :: indentedMembers indent rest

end

def indented (j : Json) : String := String.ofList (j.indentedChars 0)

end Json

end FieldSearch
