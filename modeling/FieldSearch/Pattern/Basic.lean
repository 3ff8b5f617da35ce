import FieldSearch.Pattern.Compile
import FieldSearch.Pattern.Match

/-!
# Patterns

Regular expressions with which texts are searched.
-/

namespace FieldSearch

structure Pattern where
  expression : Pattern.Expression

namespace Pattern

/-- Compile a text. There is no pattern if it is no regular expression or one that is too large. -/
def ofText? (text : String) : Option Pattern := do
  let node ← Node.ofText? text
  let (e, _) ← node.compile? {}
  if e.size ≤ sizeLimit then pure ⟨e⟩ else none

def isValid (text : String) : Bool := (ofText? text).isSome

/-- Some part of the text matches. -/
def isMatch (p : Pattern) (text : String) : Bool := p.expression.matchesIn text.toList

end Pattern

end FieldSearch
