import FieldSearch.Text.Script
import FieldSearch.Text.Segment
import FieldSearch.Text.Version

/-!
# Names of properties

The names by which a pattern can ask for a property of characters. Case, blanks, hyphens,
underscores and a leading `is` do not matter in them.
-/

namespace FieldSearch.Pattern

open Text (CharSet)

/-- Drop what does not matter in a name. -/
def looseChars (name : List Char) : List Char :=
  (name.filter fun c => c.toNat < 0x80 && c != ' ' && c != '_' && c != '-').map Char.toLower

/-- The form of a name in which names are compared. The short name `isc` is no `c` with a prefix. -/
def looseName (name : String) : List Char :=
  match name.toList with
  | i :: s :: rest =>
    if i.toLower = 'i' ∧ s.toLower = 's' then
      if looseChars rest = ['c'] then ['i', 's', 'c'] else looseChars rest
    else looseChars (i :: s :: rest)
  | cs => looseChars cs

def isNamed (loose : List Char) (names : List String) : Bool :=
  names.any fun name => looseChars name.toList == loose

/-- Binary properties by short and long name. -/
def binaryNames : List (String × String) := [
  ("AHex", "ASCII_Hex_Digit"), ("Alpha", "Alphabetic"), ("Bidi_C", "Bidi_Control"),
  ("Bidi_M", "Bidi_Mirrored"), ("CI", "Case_Ignorable"), ("Cased", "Cased"),
  ("CWCF", "Changes_When_Casefolded"), ("CWCM", "Changes_When_Casemapped"),
  ("CWL", "Changes_When_Lowercased"), ("CWT", "Changes_When_Titlecased"),
  ("CWU", "Changes_When_Uppercased"), ("Dash", "Dash"), ("DI", "Default_Ignorable_Code_Point"),
  ("Dep", "Deprecated"), ("Dia", "Diacritic"), ("Emoji", "Emoji"), ("EComp", "Emoji_Component"),
  ("EMod", "Emoji_Modifier"), ("EBase", "Emoji_Modifier_Base"), ("EPres", "Emoji_Presentation"),
  ("ExtPict", "Extended_Pictographic"), ("Ext", "Extender"), ("Gr_Base", "Grapheme_Base"),
  ("Gr_Ext", "Grapheme_Extend"), ("Gr_Link", "Grapheme_Link"), ("Hex", "Hex_Digit"),
  ("Hyphen", "Hyphen"), ("IDSB", "IDS_Binary_Operator"), ("IDST", "IDS_Trinary_Operator"),
  ("IDSU", "IDS_Unary_Operator"), ("ID_Compat_Math_Continue", "ID_Compat_Math_Continue"),
  ("ID_Compat_Math_Start", "ID_Compat_Math_Start"), ("IDC", "ID_Continue"), ("IDS", "ID_Start"),
  ("Ideo", "Ideographic"), ("Join_C", "Join_Control"), ("LOE", "Logical_Order_Exception"),
  ("Lower", "Lowercase"), ("Math", "Math"), ("MCM", "Modifier_Combining_Mark"),
  ("NChar", "Noncharacter_Code_Point"), ("OAlpha", "Other_Alphabetic"),
  ("ODI", "Other_Default_Ignorable_Code_Point"), ("OGr_Ext", "Other_Grapheme_Extend"),
  ("OIDC", "Other_ID_Continue"), ("OIDS", "Other_ID_Start"), ("OLower", "Other_Lowercase"),
  ("OMath", "Other_Math"), ("OUpper", "Other_Uppercase"), ("Pat_Syn", "Pattern_Syntax"),
  ("Pat_WS", "Pattern_White_Space"), ("PCM", "Prepended_Concatenation_Mark"),
  ("QMark", "Quotation_Mark"), ("Radical", "Radical"), ("RI", "Regional_Indicator"),
  ("SD", "Soft_Dotted"), ("STerm", "Sentence_Terminal"), ("Term", "Terminal_Punctuation"),
  ("UIdeo", "Unified_Ideograph"), ("Upper", "Uppercase"), ("VS", "Variation_Selector"),
  ("WSpace", "White_Space"), ("space", "White_Space"), ("XIDC", "XID_Continue"),
  ("XIDS", "XID_Start")]

def binary? (loose : List Char) : Option CharSet :=
  (binaryNames.find? fun row => isNamed loose [row.1, row.2]).map fun row => Text.property row.2

/-- General categories by short and long name. -/
def singleCategories : List (String × String) := [
  ("Lu", "Uppercase_Letter"), ("Ll", "Lowercase_Letter"), ("Lt", "Titlecase_Letter"),
  ("Lm", "Modifier_Letter"), ("Lo", "Other_Letter"), ("Mn", "Nonspacing_Mark"),
  ("Mc", "Spacing_Mark"), ("Me", "Enclosing_Mark"), ("Nd", "Decimal_Number"), ("Nd", "digit"),
  ("Nl", "Letter_Number"), ("No", "Other_Number"), ("Pc", "Connector_Punctuation"),
  ("Pd", "Dash_Punctuation"), ("Ps", "Open_Punctuation"), ("Pe", "Close_Punctuation"),
  ("Pi", "Initial_Punctuation"), ("Pf", "Final_Punctuation"), ("Po", "Other_Punctuation"),
  ("Sm", "Math_Symbol"), ("Sc", "Currency_Symbol"), ("Sk", "Modifier_Symbol"),
  ("So", "Other_Symbol"), ("Zs", "Space_Separator"), ("Zl", "Line_Separator"),
  ("Zp", "Paragraph_Separator"), ("Cc", "Control"), ("Cc", "cntrl"), ("Cf", "Format"),
  ("Co", "Private_Use")]

/-- Groups of categories. -/
def categoryGroups : List (List String × List String) := [
  (["L", "Letter"], ["Lu", "Ll", "Lt", "Lm", "Lo"]),
  (["LC", "Cased_Letter"], ["Lu", "Ll", "Lt"]),
  (["M", "Mark", "Combining_Mark"], ["Mn", "Mc", "Me"]),
  (["N", "Number"], ["Nd", "Nl", "No"]),
  (["P", "Punctuation", "punct"], ["Pc", "Pd", "Ps", "Pe", "Pi", "Pf", "Po"]),
  (["S", "Symbol"], ["Sm", "Sc", "Sk", "So"]),
  (["Z", "Separator"], ["Zs", "Zl", "Zp"])]

/-- The categories of what is no text, the unassigned code points among them. -/
def otherChars : CharSet := (Text.categories ["Cc", "Cf", "Cs", "Co"]).union Text.unassigned

/-- A general category; surrogates are none here, since no text holds them. -/
def category? (loose : List Char) : Option CharSet :=
  if isNamed loose ["Any"] then some .all
  else if isNamed loose ["Assigned"] then some Text.unassigned.complement
  else if isNamed loose ["ASCII"] then some (.range 0 0x7F)
  else if isNamed loose ["C", "Other"] then some otherChars
  else if isNamed loose ["Cn", "Unassigned"] then some Text.unassigned
  else
    match categoryGroups.find? fun row => isNamed loose row.1 with
    | some row => some (Text.categories row.2)
    | none =>
      (singleCategories.find? fun row => isNamed loose [row.1, row.2]).map fun row =>
        Text.category row.1

def script? (loose : List Char) : Option Text.Script :=
  Text.scripts.find? fun s => isNamed loose s.names

/-- A version, written `9.0` or `V9_0`. -/
def version? (loose : List Char) : Option String :=
  (Text.versions.find? fun v =>
    isNamed loose [v.1, "V" ++ String.ofList (v.1.toList.filter (· != '.'))]).map (·.1)

/-- A class in a table of short and long names. -/
def segment? (names : List (String × String)) (classOf : String → CharSet) (loose : List Char) :
    Option CharSet :=
  (names.find? fun row => isNamed loose [row.1, row.2]).map fun row => classOf row.2

def clusterNames : List (String × String) := [
  ("CN", "Control"), ("CR", "CR"), ("EX", "Extend"), ("L", "L"), ("LF", "LF"), ("LV", "LV"),
  ("LVT", "LVT"), ("PP", "Prepend"), ("RI", "Regional_Indicator"), ("SM", "SpacingMark"),
  ("T", "T"), ("V", "V"), ("ZWJ", "ZWJ")]

def wordNames : List (String × String) := [
  ("CR", "CR"), ("DQ", "Double_Quote"), ("EX", "ExtendNumLet"), ("Extend", "Extend"),
  ("FO", "Format"), ("HL", "Hebrew_Letter"), ("KA", "Katakana"), ("LE", "ALetter"), ("LF", "LF"),
  ("MB", "MidNumLet"), ("ML", "MidLetter"), ("MN", "MidNum"), ("NL", "Newline"),
  ("NU", "Numeric"), ("RI", "Regional_Indicator"), ("SQ", "Single_Quote"),
  ("WSegSpace", "WSegSpace"), ("ZWJ", "ZWJ")]

def sentenceNames : List (String × String) := [
  ("AT", "ATerm"), ("CL", "Close"), ("CR", "CR"), ("EX", "Extend"), ("FO", "Format"),
  ("LE", "OLetter"), ("LF", "LF"), ("LO", "Lower"), ("NU", "Numeric"), ("SC", "SContinue"),
  ("SE", "Sep"), ("SP", "Sp"), ("ST", "STerm"), ("UP", "Upper")]

/-- A property that is asked for by its name alone. -/
def named? (name : String) : Option CharSet :=
  let loose := looseName name
  -- `sc` and `lc` name categories here, and properties only before a value.
  ((binary? loose).or (category? loose)).or ((script? loose).map Text.Script.chars)

/-- A property that is asked for by its name and a value. -/
def valued? (name value : String) : Option CharSet :=
  let name := looseName name
  let value := looseName value
  if isNamed name ["gc", "General_Category"] then category? value
  else if isNamed name ["sc", "Script"] then (script? value).map Text.Script.chars
  else if isNamed name ["scx", "Script_Extensions"] then (script? value).map Text.Script.usedChars
  else if isNamed name ["age"] then (version? value).map Text.assignedIn
  else if isNamed name ["GCB", "Grapheme_Cluster_Break"] then
    segment? clusterNames Text.clusterClass value
  else if isNamed name ["WB", "Word_Break"] then segment? wordNames Text.wordClass value
  else if isNamed name ["SB", "Sentence_Break"] then
    segment? sentenceNames Text.sentenceClass value
  else none

end FieldSearch.Pattern
