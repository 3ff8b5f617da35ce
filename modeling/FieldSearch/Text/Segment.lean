import FieldSearch.Text.Property
import FieldSearch.Text.Script

/-!
# Segmentation classes

The classes by which text is broken into grapheme clusters, words and sentences, derived from the
properties of characters by the rules of the standard.
-/

namespace FieldSearch

namespace Text

/-- Characters that stay with the one after them. -/
def prepended : CharSet := .ofText
  "600-605 6DD 70F 890-891 8E2 D4E 110BD 110CD 111C2-111C3 113D1 1193F 11941 11A3A 11A84-11A89
    11D46 11F02"

/-- The tag characters, which extend a cluster though they format nothing. -/
def tagChars : CharSet := .range 0xE0020 0xE007F

def clusterExtend : CharSet := graphemeExtend.union (listed "Emoji_Modifier")

/-- Spacing marks that begin a cluster of their own. -/
def freeMarks : CharSet := .ofText
  "102B-102C 1038 1062-1064 1067-106D 1083 1087-108C 108F 109A-109C 1A61 1A63-1A64 AA7B AA7D
    11720-11721"

def hangulLV : CharSet := .ofRuns [⟨0xAC00, 0xD788, 28⟩]

def clusterClass (name : String) : CharSet :=
  match name with
  | "CR" => .range 0xD 0xD
  | "LF" => .range 0xA 0xA
  | "ZWJ" => .range 0x200D 0x200D
  | "Control" =>
    ((categories ["Zl", "Zp", "Cc", "Cf"]).union (unassigned.intersection ignorable)).difference
      (.unionAll [.ofText "A D 200C-200D", prepended, clusterExtend])
  | "Extend" => clusterExtend
  | "Prepend" => prepended
  | "SpacingMark" =>
    (((category "Mc").difference graphemeExtend).union (.ofText "E33 EB3")).difference freeMarks
  | "Regional_Indicator" => listed "Regional_Indicator"
  | "L" => .ofText "1100-115F A960-A97C"
  | "V" => .ofText "1160-11A7 D7B0-D7C6 16D63 16D67-16D6A"
  | "T" => .ofText "11A8-11FF D7CB-D7FB"
  | "LV" => hangulLV
  | "LVT" => (CharSet.range 0xAC00 0xD7A3).difference hangulLV
  | _ => .empty

def scriptChars (names : List String) : CharSet :=
  .unionAll ((scripts.filter fun s => s.names.any names.contains).map Script.chars)

def wordExtend : CharSet :=
  .unionAll [graphemeExtend, category "Mc", listed "Emoji_Modifier"]

def katakana : CharSet :=
  (scriptChars ["Kana"]).union (.ofText "3031-3035 309B-309C 30A0 30FC FF70")

def hebrewLetters : CharSet := (scriptChars ["Hebr"]).intersection (category "Lo")

/-- Letters of scripts that are written with spaces between words, and what is used like them. -/
def wordLetters : CharSet :=
  (CharSet.unionAll [alphabetic, .ofText
    "2C2-2C5 2D2-2D7 2DE-2DF 2E5-2EB 2ED 2EF-2FF 55A-55C 55E 58A 5F3 70F A708-A716 A720-A721
      A789-A78A AB5B"]).difference
    (.unionAll [listed "Ideographic", katakana, wordExtend, hebrewLetters, scriptChars
      ["Hira", "Thai", "Laoo", "Mymr", "Khmr", "Lana", "Talu", "Tale", "Tavt", "Ahom"]])

/-- Format characters that count as digits. -/
def numberSigns : CharSet := .ofText "600-605 6DD 890-891 8E2 110BD 110CD"

def wordClass (name : String) : CharSet :=
  match name with
  | "CR" => .range 0xD 0xD
  | "LF" => .range 0xA 0xA
  | "Newline" => .ofText "B-C 85 2028-2029"
  | "Extend" => wordExtend
  | "ZWJ" => .range 0x200D 0x200D
  | "Format" =>
    (category "Cf").difference (.unionAll [.range 0x200B 0x200D, tagChars, prepended])
  | "Regional_Indicator" => listed "Regional_Indicator"
  | "Katakana" => katakana
  | "Hebrew_Letter" => hebrewLetters
  | "ALetter" => wordLetters
  | "Single_Quote" => .range 0x27 0x27
  | "Double_Quote" => .range 0x22 0x22
  | "MidNumLet" => .ofText "2E 2018-2019 2024 FE52 FF07 FF0E"
  | "MidLetter" => .ofText "3A B7 387 55F 5F4 2027 FE13 FE55 FF1A"
  | "MidNum" => .ofText "2C 3B 37E 589 60C-60D 66C 7F8 2044 FE10 FE14 FE50 FE54 FF0C FF1B"
  | "Numeric" => .unionAll [category "Nd", .range 0x66B 0x66B, numberSigns]
  | "ExtendNumLet" => .ofText "5F 202F 203F-2040 2054 FE33-FE34 FE4D-FE4F FF3F"
  | "WSegSpace" => .ofText "20 1680 2000-2006 2008-200A 205F 3000"
  | _ => .empty

def sentenceExtend : CharSet := .unionAll [graphemeExtend, category "Mc", .range 0x200D 0x200D]

def sentenceLower : CharSet :=
  (lowercase.difference (graphemeExtend.union (.range 0x10D0 0x10FF))).union (.ofText "295 10FC")

def sentenceUpper : CharSet :=
  (uppercase.union (category "Lt")).difference (graphemeExtend.union (.range 0x1C90 0x1CBF))

def fullStops : CharSet := .ofText "2E 2024 FE52 FF0E"

def sentenceClass (name : String) : CharSet :=
  match name with
  | "CR" => .range 0xD 0xD
  | "LF" => .range 0xA 0xA
  | "Sep" => .ofText "85 2028-2029"
  | "Extend" => sentenceExtend
  | "Format" =>
    (category "Cf").difference (.unionAll [.range 0x200C 0x200D, tagChars, prepended])
  | "Sp" => whiteSpace.difference (.ofText "A D 85 2028-2029")
  | "Lower" => sentenceLower
  | "Upper" => sentenceUpper
  | "OLetter" =>
    (alphabetic.union (.range 0x5F3 0x5F3)).difference
      (.unionAll [sentenceLower, sentenceUpper, sentenceExtend])
  | "Numeric" => .unionAll [category "Nd", .range 0x66B 0x66C, numberSigns]
  | "ATerm" => fullStops
  | "STerm" => (listed "Sentence_Terminal").difference fullStops
  | "SContinue" => .ofText
    "2C-2D 3A-3B 37E 55D 60C-60D 7F8 1802 1808 2013-2014 3001 FE10-FE11 FE13 FE31-FE32 FE50-FE51
      FE55 FE58 FE63 FF0C-FF0D FF1A FF64"
  | "Close" =>
    .unionAll [categories ["Ps", "Pe", "Pi", "Pf"],
      .ofText "22 27 275B-2760 2E00-2E01 2E06-2E08 2E0B 1F676-1F678"]
  | _ => .empty

end Text

end FieldSearch
