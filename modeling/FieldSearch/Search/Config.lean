import FieldSearch.Filter.Reader
import FieldSearch.Json.Record

/-!
# Limits and options of a search
-/

namespace FieldSearch

structure Config where
  maxDepth : Nat := 32
  maxLeaves : Nat := 256
  /-- Strings in operands are decomposed first. -/
  normalizeStrings : Bool := true
  maxItemsPerPage : Nat := 1000
  deriving DecidableEq

inductive ConfigFault where
  | noDepth
  | noLeaves
  | noItems
  deriving DecidableEq

def ConfigFault.message : ConfigFault → String
  | noDepth => "Max depth cannot be 0"
  | noLeaves => "Max leaves cannot be 0"
  | noItems => "Max items per page cannot be 0"

namespace Config

def bounds (c : Config) : Bounds := ⟨c.maxDepth, c.maxLeaves⟩

/-- Everything that is wrong with the limits. -/
def faults (c : Config) : List ConfigFault :=
  (if c.maxDepth = 0 then [.noDepth] else []) ++
  (if c.maxLeaves = 0 then [.noLeaves] else []) ++
  (if c.maxItemsPerPage = 0 then [.noItems] else [])

def wordOfJson? (j : Json) : Option Nat := j.uint64?.map UInt64.toNat

/-- Read a configuration, a missing entry having its default. -/
def ofJson? (j : Json) : Option Config :=
  let c : Config := {}
  match j.fields? ["max_depth", "max_leaves", "normalize_strings", "max_items_per_page"] with
  | some [depth, leaves, normalize, items] => do
    pure {
      maxDepth := ← Json.default? c.maxDepth wordOfJson? depth
      maxLeaves := ← Json.default? c.maxLeaves wordOfJson? leaves
      normalizeStrings := ← Json.default? c.normalizeStrings Json.bool? normalize
      maxItemsPerPage := ← Json.default? c.maxItemsPerPage wordOfJson? items }
  | _ => none

def toJson (c : Config) : Json :=
  .object [("max_depth", Json.ofNat c.maxDepth), ("max_leaves", Json.ofNat c.maxLeaves),
    ("normalize_strings", .bool c.normalizeStrings),
    ("max_items_per_page", Json.ofNat c.maxItemsPerPage)]

end Config

end FieldSearch
