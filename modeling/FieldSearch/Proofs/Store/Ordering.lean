import FieldSearch.Proofs.Search.WellFormed
import FieldSearch.Proofs.Sql.Rendering
import FieldSearch.Proofs.Store.Record
import FieldSearch.Store.Search

/-!
# Rows that an ordering does not tell apart

Every ordering has a term on the primary key, so rows that it leaves equal have keys that compare
as equal. Keys that are strings are compared without regard to case like all strings. Two rows
whose keys differ only by case are then left in the order in which they were visited.
-/

namespace FieldSearch

open Sql

namespace Sql

/-- The keys of a statement that puts the rows of the root in order. -/
def orderKeys (terms : List OrderTerm) : List OrderBy :=
  terms.map fun t => ⟨⟨rootRow, t.column.name⟩, t.caseInsensitive, t.direction⟩

theorem OrderBy.cmp_eq_eq {o : OrderBy} {a b : Store.Frames} :
    o.cmp a b = .eq ↔
      Value.cmpFor o.caseInsensitive (a.value o.column) (b.value o.column) = .eq := by
  rw [cmp]
  cases o.direction with
  | asc => rfl
  | desc => exact Ordering.swap_eq_eq

theorem cmpRows_eq_eq {order : List OrderBy} {a b : Store.Frames} :
    cmpRows order a b = .eq ↔ ∀ o ∈ order, o.cmp a b = .eq := by
  induction order with
  | nil => simp [cmpRows]
  | cons o rest ih => rw [cmpRows, Ordering.then_eq_eq, ih, List.forall_mem_cons]

namespace Value

theorem cmp_self (v : Value) : v.cmp v = .eq := by
  cases v with
  | null => rfl
  | integer n => exact Std.ReflOrd.compare_self
  | real x => exact Std.ReflOrd.compare_self
  | text s => exact Std.ReflOrd.compare_self

theorem cmpIgnoringCase_self (s : String) : cmpIgnoringCase s s = .eq := by
  rw [cmpIgnoringCase, Ordering.then_eq_eq]
  exact ⟨Std.ReflOrd.compare_self, Std.ReflOrd.compare_self⟩

theorem cmpFor_self (caseInsensitive : Bool) (v : Value) : cmpFor caseInsensitive v v = .eq := by
  cases caseInsensitive with
  | false => exact cmp_self v
  | true =>
    cases v with
    | null => rfl
    | integer n => exact cmp_self (.integer n)
    | real x => exact cmp_self (.real x)
    | text s => exact cmpIgnoringCase_self s

/-- Values that are known to differ do not compare as equal. -/
theorem cmp_ne_eq {v w : Value} (h : v.equal w = some false) : v.cmp w ≠ .eq := by
  intro heq
  rw [equal, test] at h
  split at h
  · cases h
  · simp [heq] at h

end Value

end Sql

namespace Store

/-- The terms of an ordering leave two rows of the root equal. -/
def Ties (terms : List OrderTerm) (a b : Record) : Prop :=
  cmpRows (orderKeys terms) [a.frame rootRow] [b.frame rootRow] = .eq

theorem ties_iff {terms : List OrderTerm} {a b : Record} :
    Ties terms a b ↔ ∀ t ∈ terms, Value.cmpFor t.caseInsensitive (a.value t.column.name)
      (b.value t.column.name) = .eq := by
  rw [Ties, cmpRows_eq_eq, orderKeys, List.forall_mem_map]
  exact forall₂_congr fun t _ => by
    rw [OrderBy.cmp_eq_eq, Record.value_frame, Record.value_frame]

section Keys

variable {registry : Registry} {root : Entity} {keys : List SortKey} {terms : List OrderTerm}
  {key : Attribute} (sound : root.Sound) (hkey : root.primaryKeyAttribute? = some key)
  (h : OrderTerm.ofKeys registry root keys = .ok terms) {a b : Record}

include sound hkey h

theorem ties_keys (ties : Ties terms a b) :
    Value.cmpFor key.type.isText (a.value root.primaryKey) (b.value root.primaryKey) = .eq := by
  obtain ⟨t, ht, hname⟩ := OrderTerm.ofKeys_key h
  obtain ⟨x, direction, hx, rfl⟩ := OrderTerm.ofKeys_ofAttribute sound h t ht
  change x.name = root.primaryKey at hname
  rw [hname] at hx
  cases hx.symm.trans hkey
  rw [← hname]
  exact ties_iff.mp ties _ ht

/-- Keys that are not strings are told apart if they are known to differ. -/
theorem not_ties (notString : key.type ≠ .string)
    (hne : (a.value root.primaryKey).equal (b.value root.primaryKey) = some false) :
    ¬ Ties terms a b := by
  intro ties
  have hkeys := ties_keys sound hkey h ties
  have hplain : key.type.isText = false := by
    cases htype : key.type with
    | string => exact absurd htype notString
    | _ => rfl
  rw [hplain] at hkeys
  exact Value.cmp_ne_eq hne hkeys

/-- Rows with the same values beside their keys are left equal if the keys compare as equal. -/
theorem ties_of_keys
    (others : ∀ x ∈ root.attributes, x ≠ key → a.value x.name = b.value x.name)
    (hkeys : Value.cmpFor key.type.isText (a.value root.primaryKey) (b.value root.primaryKey) =
      .eq) : Ties terms a b := by
  rw [ties_iff]
  intro t ht
  obtain ⟨x, direction, hx, rfl⟩ := OrderTerm.ofKeys_ofAttribute sound h t ht
  change Value.cmpFor x.type.isText (a.value x.name) (b.value x.name) = .eq
  by_cases hsame : x = key
  · rw [hsame, (Entity.attribute?_eq_some hkey).2]
    exact hkeys
  · rw [others x (Entity.attribute?_eq_some hx).1 hsame]
    exact Value.cmpFor_self _ _

end Keys

/-- An ordering tells rows with different keys apart unless the primary key is a string. Keys that
are strings it tells apart only if they differ without regard to case. -/
theorem ordering_tells_keys_apart {entities : List Entity} {aliases : List EntityAlias}
    {registry : Registry} (built : Registry.build entities aliases = .ok registry)
    {config : Config} {name : String} {root : Entity}
    (start : (Compiler.mk registry config).root name = .ok root) {orderBy : Json}
    {terms : List OrderTerm}
    (ordering : (Compiler.mk registry config).ordering root orderBy = .ok terms) :
    ∃ key, root.primaryKeyAttribute? = some key ∧
      (key.type ≠ .string → ∀ a b : Record,
        (a.value root.primaryKey).equal (b.value root.primaryKey) = some false →
          ¬ Ties terms a b) ∧
      (key.type = .string → ∀ a b : Record,
        (Ties terms a b →
          Value.cmpFor true (a.value root.primaryKey) (b.value root.primaryKey) = .eq) ∧
        ((∀ x ∈ root.attributes, x ≠ key → a.value x.name = b.value x.name) →
          Value.cmpFor true (a.value root.primaryKey) (b.value root.primaryKey) = .eq →
          Ties terms a b)) := by
  have sound := (Registry.build_consistent built).sound root (Compiler.root_mem start)
  obtain ⟨key, hkey⟩ := Option.isSome_iff_exists.mp sound.key
  obtain ⟨keys, -, h⟩ := bind_eq_ok.mp ordering
  refine ⟨key, hkey, fun notString a b => not_ties sound hkey h notString, fun string a b => ?_⟩
  · have htext : key.type.isText = true := by rw [string]; rfl
    rw [← htext]
    exact ⟨ties_keys sound hkey h, ties_of_keys sound hkey h⟩

namespace Bookcase

def bookRecord (id : Int64) : Record := ⟨⟨"book", some "id", [⟨"id", .integer⟩]⟩, [.integer id]⟩

theorem book_start : (Compiler.mk Sql.Example.schema Sql.Example.config).root "Book" =
    .ok Sql.Example.book := by rfl

theorem book_ordering : (Compiler.mk Sql.Example.schema Sql.Example.config).ordering
    Sql.Example.book .null = .ok Sql.Example.plan.orderBy := by rfl

/-- Words, whose keys are strings. -/
def word : Entity :=
  ⟨"Word", "word", "text", true, [⟨"text", .string⟩, ⟨"rank", .integer⟩], []⟩

def dictionary : Registry := ⟨[word], []⟩

def compiler : Compiler := ⟨dictionary, Sql.Example.config⟩

/-- The first word of rank 1. -/
def firstWord : Plan :=
  ⟨"Word", .compare ⟨.root, "rank"⟩ .eq (.integer 1), [], [⟨⟨.root, "text"⟩, .asc, true⟩],
    some ⟨1, 1⟩⟩

def wordTable : TableDef := ⟨"word", some "text", [⟨"text", .text⟩, ⟨"rank", .integer⟩]⟩

def wordRecord (text : String) : Record := ⟨wordTable, [.text text, .integer 1]⟩

/-- A store with these words, all of rank 1, in the order in which they were inserted. -/
def words (texts : List String) : Store :=
  ⟨[⟨wordTable, texts.mapIdx fun i text => ⟨i + 1, (wordRecord text).cells⟩⟩]⟩

end Bookcase

open Bookcase

theorem books_told_apart : ¬ Ties Sql.Example.plan.orderBy (bookRecord 1) (bookRecord 2) := by
  obtain ⟨key, hkey, apart, -⟩ :=
    ordering_tells_keys_apart Sql.Example.schema_built book_start book_ordering
  cases hkey
  exact apart (by decide) _ _ (by decide)

/-- The ordering of words leaves two words equal that differ by case, so the first page of one
search on the same words is the word that was inserted first. -/
theorem words_tie :
    Registry.build [word] [] = .ok dictionary ∧ compiler.root "Word" = .ok word ∧
      compiler.ordering word .null = .ok firstWord.orderBy ∧
      ((wordRecord "a").value "text").equal ((wordRecord "A").value "text") = some false ∧
      Ties firstWord.orderBy (wordRecord "a") (wordRecord "A") ∧
      compiler.compile "Word" (.array [.string "Word", .string "rank", .string "=", .int 1]) .null
        (some ⟨1, 1⟩) = .ok firstWord ∧
      (words ["a", "A"]).execute dictionary firstWord = .ok [.text "a"] ∧
      (words ["A", "a"]).execute dictionary firstWord = .ok [.text "A"] := by
  refine ⟨by rfl, by rfl, by rfl, by decide, ?_, by rfl, by decide +kernel,
    by decide +kernel⟩
  rw [Ties]
  decide

end Store

end FieldSearch
