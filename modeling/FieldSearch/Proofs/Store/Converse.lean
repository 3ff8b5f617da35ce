import FieldSearch.Proofs.Filter.Grammar
import FieldSearch.Proofs.Json.Words
import FieldSearch.Proofs.Store.Answer
import FieldSearch.Proofs.Store.Numbering
import FieldSearch.Proofs.Store.Ranking

/-!
# Converse relations

Two relations between the same entities are converse to each other if they are stored in the same
place and read from its two sides. They link the same rows, so a key of one side is found by a key
of the other just if it finds that key. Keys that are integers are returned as those integers where
their column keeps them so; a column of texts returns their digits.
-/

namespace FieldSearch

open Sql

namespace Sql.Value

theorem cmp_swap (v w : Value) : (v.cmp w).swap = w.cmp v := by
  have plain : ∀ v w : Value, v.cmp w = order false v w := fun v w => by
    rw [← cmpFor_eq_order]
    rfl
  have oriented : order false w v = (order false v w).swap := Std.OrientedCmp.eq_swap
  rw [plain, plain, oriented]

theorem equal_comm (v w : Value) : v.equal w = w.equal v := by
  rw [equal, equal, test, test, ← cmp_swap v w, Bool.or_comm]
  cases v.cmp w <;> rfl

theorem columnsEqual_comm (a b : StorageType × Value) : columnsEqual a b = columnsEqual b a := by
  rw [columnsEqual, columnsEqual, equal_comm a.2, equal_comm a.2.asNumber]
  simp only [and_comm]

theorem equal_integer {m n : Int64} : (integer m).equal (integer n) = some true ↔ m = n := by
  simp [equal, test, isNull, cmp, Int64.toInt_inj]

/-- The value of a column equals the integer, as the store compares them. -/
def equalsInt (column : StorageType × Value) (n : Int64) : Bool :=
  compareTruth .eq column (integer n) == some true

end Sql.Value

/-- The same place, read from its other side. -/
inductive JoinKey.Converse : JoinKey → JoinKey → Prop
  | reverse (column : String) : Converse (.foreignKey column) (.reverse column)
  | association (table sourceColumn targetColumn : String) :
    Converse (.association table sourceColumn targetColumn)
      (.association table targetColumn sourceColumn)

/-- Converse relations link the same rows. -/
theorem Sql.Binding.links_converse {source target : Entity} {r s : Relation}
    (converse : r.join.Converse s.join) (st : Store) (row other : Store.Record) :
    Binding.links ⟨source, r, target⟩ st row other =
      Binding.links ⟨target, s, source⟩ st other row := by
  simp only [links]
  generalize r.join = j at converse
  generalize s.join = k at converse
  cases converse with
  | reverse column => simp only [Value.columnsEqual_comm]
  | association table sourceColumn targetColumn =>
    refine congrArg (List.any _) (funext fun link => ?_)
    simp only [Value.columnsEqual_comm, Bool.and_comm]

/-- The primary key is an attribute for integers. -/
def Entity.HasIntegerKey (e : Entity) : Prop :=
  ∃ a, e.primaryKeyAttribute? = some a ∧ a.type = .integer

/-- The filter that compares the key of what a relation leads to with an integer. -/
def relatedKeyNode (source : Entity) (r : Relation) (target : Entity) (n : Int) : Json :=
  Filter.leafNode [source.name, r.name, target.primaryKey] "=" (.int n)

theorem Filter.parse_relatedKeyNode {bounds : Bounds} {source target : Entity} {r : Relation}
    {n : Int} {f : Filter} (h : parse bounds (relatedKeyNode source r target n) = .ok f) :
    f = .leaf ⟨[source.name, r.name, target.primaryKey], .eq, .int n,
      relatedKeyNode source r target n⟩ := by
  have mirrors : Mirrors (relatedKeyNode source r target n)
      (.leaf ⟨[source.name, r.name, target.primaryKey], .eq, .int n,
        relatedKeyNode source r target n⟩) :=
    .leaf (.int n) (by simp) (by decide)
  -- what is read has the size of this leaf, so the leaf is within the bounds and is read as well
  obtain ⟨mirrors', hdepth, hleaves⟩ := parse_eq_ok.mp h
  have measured := mirrors'.measure.symm.trans mirrors.measure
  rw [Complexity.mk.injEq] at measured
  rw [measured.1] at hdepth
  rw [measured.2] at hleaves
  exact Except.ok.inj (h.symm.trans (parse_eq_ok.mpr ⟨mirrors, hdepth, hleaves⟩))

namespace Scope

variable {scope : Scope} {target : Entity} {r : Relation} {n : Int}

theorem operand_int {o : Operand} (h : scope.operand .eq .integer (.int n) = .ok o) :
    ∃ w : Int64, w.toInt = n ∧ o = .single (.integer w) := by
  obtain ⟨v, hv, h⟩ := bind_eq_ok.mp h
  obtain ⟨-, -, h⟩ := bind_eq_ok.mp h
  cases h
  simp only [value, convert?] at hv
  cases hw : (Json.int n).int64? with
  | none =>
    simp only [hw, Option.map_none] at hv
    cases hv
  | some w =>
    simp only [hw, Option.map_some] at hv
    cases hv
    exact ⟨w, (Json.int.inj (Json.int64?_eq_some.mp hw)).symm, rfl⟩

/-- A leaf that compares the key of what a relation leads to resolves, if at all, to that. -/
theorem leaf_relatedKey (sound : scope.root.Sound) (hr : r ∈ scope.root.relations)
    (htarget : scope.registry.entity? r.target = some target) (key : target.HasIntegerKey)
    {source : Json} {l : ResolvedLeaf}
    (h : scope.leaf ⟨[scope.root.name, r.name, target.primaryKey], .eq, .int n, source⟩ = .ok l) :
    ∃ w : Int64, w.toInt = n ∧ l = .compare (some ⟨scope.root.name, r⟩) target.name
      target.primaryKey .eq (.single (.integer w)) := by
  obtain ⟨a, ha, htype⟩ := key
  have hname : a.name = target.primaryKey := (Entity.attribute?_eq_some ha).2
  have hattribute : target.attribute? target.primaryKey = some a := ha
  have accepts : Comparison.accepts .eq .integer = true := rfl
  have shallow : ¬ maxHops < 1 := by decide
  simp only [leaf, Leaf.hops, List.length_cons, List.length_nil, if_neg shallow] at h
  split at h
  next => cases h
  next =>
    simp only [if_true, viaRelation, sound.relation? hr, htarget, hattribute, compareLeaf,
      htype, hname, accepts, Bool.not_true, Bool.false_eq_true, if_false] at h
    split at h
    next operand hoperand =>
      cases h
      obtain ⟨w, hw, rfl⟩ := operand_int hoperand
      exact ⟨w, hw, rfl⟩
    next => cases h

end Scope

namespace Store

/-- The type of a column of a table. -/
def columnType (s : Store) (table column : String) : StorageType :=
  ((s.table? table).bind fun t =>
    (t.definition.columnIndex? column).map t.definition.typeAt).getD .text

theorem column_eq {s : Store} {table : String} {row : Record} (hrow : row ∈ s.records table)
    (column : String) : row.column column = (s.columnType table column, row.value column) := by
  cases ht : s.table? table with
  | none =>
    rw [records, ht] at hrow
    cases hrow
  | some t =>
    rw [records_eq ht] at hrow
    obtain ⟨r, -, rfl⟩ := List.mem_map.mp hrow
    refine Prod.ext ?_ rfl
    rw [columnType, ht, Option.bind_some, Record.column, Record.column?]
    cases t.definition.columnIndex? column <;> rfl

end Store

section Search

variable {registry : Registry} (consistent : registry.Consistent) {root target : Entity}
  (hroot : root ∈ registry.entities) {r : Relation} (hr : r ∈ root.relations)
  (htarget : registry.entity? r.target = some target) (key : target.HasIntegerKey)

include consistent hroot hr htarget key

theorem Compiler.resolve_relatedKey {config : Config} {n : Int} {resolved : ResolvedFilter}
    (h : (Compiler.mk registry config).resolve root (relatedKeyNode root r target n) =
      .ok resolved) :
    ∃ w : Int64, w.toInt = n ∧ resolved = .leaf (.compare (some ⟨root.name, r⟩) target.name
      target.primaryKey .eq (.single (.integer w))) := by
  obtain ⟨f, hf, h⟩ := bind_eq_ok.mp h
  cases Filter.parse_relatedKeyNode hf
  obtain ⟨l, hl, rfl⟩ := map_eq_ok.mp h
  obtain ⟨w, hw, rfl⟩ := Scope.leaf_relatedKey (consistent.sound root hroot) hr htarget key hl
  exact ⟨w, hw, rfl⟩

/-- A search for rows by the key of what a relation leads to returns, if anything, the keys of the
rows that the relation links to a row with that key. -/
theorem Store.relatedKey_found {config : Config} {n : Int} {orderBy : Json} {plan : Plan}
    (compiled : (Compiler.mk registry config).compile root.name
      (relatedKeyNode root r target n) orderBy none = .ok plan)
    {st : Store} {keys : List Value} (found : st.execute registry plan = .ok keys) :
    ∃ w : Int64, w.toInt = n ∧ ∀ v, v ∈ keys ↔
      ∃ row ∈ st.records root.table, ∃ other ∈ st.records target.table,
        Binding.links ⟨root, r, target⟩ st row other = true ∧
        Value.equalsInt (other.column target.primaryKey) w = true ∧
        v = row.value root.primaryKey := by
  have hentity := consistent.entity? hroot
  obtain ⟨root', resolved, terms, start, hresolved, -, hplan⟩ := Compiler.compile_eq_ok compiled
  cases hentity.symm.trans (Compiler.root_entity start)
  obtain ⟨w, hw, rfl⟩ :=
    Compiler.resolve_relatedKey consistent hroot hr htarget key hresolved
  refine ⟨w, hw, fun v => ?_⟩
  -- one leaf has one join at most, whatever the configuration allows
  have size : plan.joins.length < UInt32.size := by
    rw [hplan]
    exact Nat.lt_of_le_of_lt (JoinPlan.ofFilter_length_le _) (by decide : 1 < UInt32.size)
  obtain ⟨root', resolved', compiles⟩ := Compiler.compile_compiles consistent compiled size
  cases start.symm.trans compiles.start
  cases hresolved.symm.trans compiles.resolve
  have hb : Traversal.binding? registry ⟨root.name, r⟩ = some ⟨root, r, target⟩ := by
    simp only [Traversal.binding?, hentity, htarget, Option.bind_eq_bind, Option.bind_some]
    rfl
  have htruth : ∀ row, plan.truth registry st row =
      some ((Binding.targets ⟨root, r, target⟩ st row).any fun other =>
        Value.equalsInt (other.column target.primaryKey) w) := by
    intro row
    rw [compiles.truth_eq consistent st row, ResolvedFilter.truth, ResolvedLeaf.truth, hb]
    rfl
  have perm := Store.execute_sound compiles.wellFormed compiles.page found
  simp only [perm.mem_iff, htruth, List.mem_map, List.mem_filter, Option.some_beq_some, beq_true,
    List.any_eq_true, Binding.targets, and_assoc]
  constructor
  · rintro ⟨row, hrow, ⟨other, hother, hlinks, hequal⟩, hv⟩
    exact ⟨row, hrow, other, hother, hlinks, hequal, hv.symm⟩
  · rintro ⟨row, hrow, other, hother, hlinks, hequal, hv⟩
    exact ⟨row, hrow, ⟨other, hother, hlinks, hequal⟩, hv.symm⟩

/-- Some key that it returns equals an integer just if some row with such a key is linked to a row
with the key that was searched for. -/
theorem Store.relatedKey_meets {config : Config} {n : Int} {orderBy : Json} {plan : Plan}
    (compiled : (Compiler.mk registry config).compile root.name
      (relatedKeyNode root r target n) orderBy none = .ok plan)
    {st : Store} {keys : List Value} (found : st.execute registry plan = .ok keys) :
    ∃ w : Int64, w.toInt = n ∧
      (∀ v ∈ keys, ∃ row ∈ st.records root.table, v = row.value root.primaryKey) ∧
      ∀ m, (∃ v ∈ keys, Value.equalsInt (st.columnType root.table root.primaryKey, v) m = true) ↔
        ∃ row ∈ st.records root.table, ∃ other ∈ st.records target.table,
          Binding.links ⟨root, r, target⟩ st row other = true ∧
          Value.equalsInt (row.column root.primaryKey) m = true ∧
          Value.equalsInt (other.column target.primaryKey) w = true := by
  obtain ⟨w, hw, mem⟩ := Store.relatedKey_found consistent hroot hr htarget key compiled found
  refine ⟨w, hw, ?_, fun m => ⟨?_, ?_⟩⟩
  · intro v hv
    obtain ⟨row, hrow, -, -, -, -, hvalue⟩ := (mem v).mp hv
    exact ⟨row, hrow, hvalue⟩
  · rintro ⟨v, hv, hm⟩
    obtain ⟨row, hrow, other, hother, hlinks, hw, rfl⟩ := (mem v).mp hv
    rw [← Store.column_eq hrow] at hm
    exact ⟨row, hrow, other, hother, hlinks, hm, hw⟩
  · rintro ⟨row, hrow, other, hother, hlinks, hm, hw⟩
    rw [Store.column_eq hrow] at hm
    exact ⟨_, (mem _).mpr ⟨row, hrow, other, hother, hlinks, hw, rfl⟩, hm⟩

end Search

namespace Store

/-- The column is none of texts, and what equals an integer in it is that integer. -/
structure KeepsIntegers (s : Store) (table column : String) : Prop where
  numeric : s.columnType table column ≠ .text
  same : ∀ row ∈ s.records table, ∀ n, (row.value column).equal (.integer n) = some true →
    row.value column = .integer n

theorem KeepsIntegers.equalsInt_iff {s : Store} {table column : String}
    (keeps : s.KeepsIntegers table column) {row : Record} (hrow : row ∈ s.records table)
    {n : Int64} : Value.equalsInt (row.column column) n = true ↔ row.value column = .integer n := by
  have adapts : (s.columnType table column).adapt (.integer n) = .integer n := by
    have numeric := keeps.numeric
    cases htype : s.columnType table column with
    | text => exact absurd htype numeric
    | _ => rfl
  rw [column_eq hrow, Value.equalsInt, beq_iff_eq, Value.compareTruth, Value.compare, adapts]
  constructor
  · exact keeps.same row hrow n
  · intro h
    rw [h]
    exact Value.equal_integer.mpr rfl

/-- The column is the primary key of its table, and the keys are the numbers of the rows. -/
def NumbersRows (s : Store) (table column : String) : Prop :=
  ∃ t ∈ s.table? table, t.definition.numberIndex?.isSome ∧
    t.definition.columnIndex? column = t.definition.numberIndex?

instance (s : Store) (table column : String) : Decidable (s.NumbersRows table column) :=
  inferInstanceAs (Decidable (∃ t ∈ s.table? table, _))

/-- Keys that are the numbers of the rows are kept as integers. -/
theorem KeepsIntegers.of_numbers {s : Store} (numbers : s.HasNumbers) {table column : String}
    (key : s.NumbersRows table column) : s.KeepsIntegers table column := by
  obtain ⟨t, ht, hsome, hsame⟩ := key
  obtain ⟨index, hnumber⟩ := Option.isSome_iff_exists.mp hsome
  have hcolumn := hsame.trans hnumber
  obtain ⟨-, htype⟩ := Option.filter_eq_some_iff.mp hnumber
  constructor
  · rw [columnType, ht, Option.bind_some, hcolumn, Option.map_some, Option.getD_some,
      beq_iff_eq.mp htype]
    decide
  · intro row hrow n hequal
    rw [records_eq ht] at hrow
    obtain ⟨r, hr, rfl⟩ := List.mem_map.mp hrow
    obtain ⟨m, hm⟩ :=
      Value.isInteger_iff.mp (numbers t (List.mem_of_find?_eq_some ht) index hnumber r hr)
    have hvalue : Record.value ⟨t.definition, r.cells⟩ column = .integer m := by
      rw [Record.value, Record.column, Record.column?, hcolumn]
      exact hm
    rw [hvalue, Value.equal_integer] at hequal
    rw [hvalue, hequal]

/-- Where integers are kept, one is returned just if a value that equals it is. -/
theorem KeepsIntegers.mem_toJson {s : Store} {table column : String}
    (keeps : s.KeepsIntegers table column) {keys : List Value}
    (stored : ∀ v ∈ keys, ∃ row ∈ s.records table, v = row.value column) {n : Int64} :
    Json.int n.toInt ∈ keys.map Value.toJson ↔
      ∃ v ∈ keys, Value.equalsInt (s.columnType table column, v) n = true := by
  rw [List.mem_map]
  refine exists_congr fun v => and_congr_right fun hv => ?_
  obtain ⟨row, hrow, rfl⟩ := stored v hv
  rw [← column_eq hrow, keeps.equalsInt_iff hrow]
  cases row.value column <;> simp [Value.toJson, Int64.toInt_inj]

/-- For relations that are converse to each other, some row of the one entity is found by a key of
the other if and only if some row with that key is found by a key of the first. If the keys are kept
as integers, what is returned mirrors what is searched for. -/
theorem converse_relations_mirror {registry : Registry} {entities : List Entity}
    {aliases : List EntityAlias} (built : Registry.build entities aliases = .ok registry)
    {A B : Entity} (hA : A ∈ registry.entities) (hB : B ∈ registry.entities)
    (keyA : A.HasIntegerKey) (keyB : B.HasIntegerKey) {r s : Relation} (hr : r ∈ A.relations)
    (hs : s ∈ B.relations) (leads : r.target = B.name) (returns : s.target = A.name)
    (converse : r.join.Converse s.join) {config : Config} {a b : Int} {orderA orderB : Json}
    {planA planB : Plan}
    (compiledA : (Compiler.mk registry config).compile A.name
      (.array [.string A.name, .string r.name, .string B.primaryKey, .string "=", .int b])
      orderA none = .ok planA)
    (compiledB : (Compiler.mk registry config).compile B.name
      (.array [.string B.name, .string s.name, .string A.primaryKey, .string "=", .int a])
      orderB none = .ok planB)
    {st : Store} {idsA idsB : List Value} (foundA : st.execute registry planA = .ok idsA)
    (foundB : st.execute registry planB = .ok idsB) :
    ((∃ v ∈ idsA, Value.equalsInt (st.columnType A.table A.primaryKey, v) (.ofInt a) = true) ↔
      ∃ v ∈ idsB, Value.equalsInt (st.columnType B.table B.primaryKey, v) (.ofInt b) = true) ∧
    (st.KeepsIntegers A.table A.primaryKey → st.KeepsIntegers B.table B.primaryKey →
      (Json.int a ∈ idsA.map Value.toJson ↔ Json.int b ∈ idsB.map Value.toJson)) := by
  have consistent := Registry.build_consistent built
  have targetA : registry.entity? r.target = some B := leads ▸ consistent.entity? hB
  have targetB : registry.entity? s.target = some A := returns ▸ consistent.entity? hA
  obtain ⟨y, rfl, storedA, meetsA⟩ :=
    relatedKey_meets consistent hA hr targetA keyB compiledA foundA
  obtain ⟨x, rfl, storedB, meetsB⟩ :=
    relatedKey_meets consistent hB hs targetB keyA compiledB foundB
  have links : ∀ row other,
      Binding.links ⟨A, r, B⟩ st row other = Binding.links ⟨B, s, A⟩ st other row :=
    Binding.links_converse converse st
  have meet : (∃ v ∈ idsA, Value.equalsInt (st.columnType A.table A.primaryKey, v) x = true) ↔
      ∃ v ∈ idsB, Value.equalsInt (st.columnType B.table B.primaryKey, v) y = true := by
    rw [meetsA, meetsB]
    constructor
    · rintro ⟨row, hrow, other, hother, hlinks, hx, hy⟩
      exact ⟨other, hother, row, hrow, links row other ▸ hlinks, hy, hx⟩
    · rintro ⟨other, hother, row, hrow, hlinks, hy, hx⟩
      exact ⟨row, hrow, other, hother, links row other ▸ hlinks, hx, hy⟩
  rw [Int64.ofInt_toInt, Int64.ofInt_toInt]
  refine ⟨meet, fun keepsA keepsB => ?_⟩
  rw [keepsA.mem_toJson storedA, keepsB.mem_toJson storedB]
  exact meet

namespace Bookcase

/-- Books by the author with this key. -/
def byAuthorKey (n : Int) : Json :=
  .array [.string "Book", .string "author", .string "id", .string "=", .int n]

/-- Authors of the book with this key. -/
def byBookKey (n : Int) : Json :=
  .array [.string "Author", .string "books", .string "id", .string "=", .int n]

def booksOf (n : Int64) : Plan where
  root := "Book"
  predicate := .exist ⟨1⟩ (.compare ⟨⟨1⟩, "id"⟩ .eq (.integer n))
  joins := [⟨⟨1⟩, "Book", "author", "Author", .toOne⟩]
  orderBy := [⟨⟨.root, "id"⟩, .asc, false⟩]
  page := none

def authorsOf (n : Int64) : Plan where
  root := "Author"
  predicate := .exist ⟨1⟩ (.compare ⟨⟨1⟩, "id"⟩ .eq (.integer n))
  joins := [⟨⟨1⟩, "Author", "books", "Book", .toMany⟩]
  orderBy := [⟨⟨.root, "id"⟩, .asc, false⟩]
  page := none

/-- The books are in one table with an archive whose keys are texts. -/
def archived : Registry :=
  ⟨[⟨"Archive", "book", "id", true, [⟨"id", .string⟩], []⟩, Sql.Example.author, Sql.Example.book,
    Sql.Example.tag], []⟩

/-- A book with its author, in the tables of that schema. -/
def archivedLibrary : Store :=
  ⟨[⟨⟨"author", some "id", [⟨"id", .integer⟩, ⟨"born", .integer⟩]⟩, [⟨7, [number 7, .null]⟩]⟩,
    ⟨⟨"book", some "id", [⟨"id", .text⟩, ⟨"title", .text⟩, ⟨"pages", .integer⟩,
        ⟨"author_id", .integer⟩]⟩,
      [⟨1, [.text "1", .null, .null, number 7]⟩]⟩,
    ⟨⟨"book\"tag", none, [⟨"book_id", .integer⟩, ⟨"tag_id", .integer⟩]⟩, []⟩,
    ⟨⟨"tag", some "id", [⟨"id", .integer⟩, ⟨"rank", .integer⟩]⟩, []⟩]⟩

end Bookcase

open Bookcase in
theorem library_mirrors :
    library.execute Sql.Example.schema (booksOf 7) = .ok [number 2] ∧
      library.execute Sql.Example.schema (authorsOf 2) = .ok [number 7] ∧
      (Json.int 2 ∈ [number 2].map Value.toJson ↔ Json.int 7 ∈ [number 7].map Value.toJson) := by
  have foundA : library.execute Sql.Example.schema (booksOf 7) = .ok [number 2] := by decide +kernel
  have foundB : library.execute Sql.Example.schema (authorsOf 2) = .ok [number 7] := by
    decide +kernel
  have compiledA : (Compiler.mk Sql.Example.schema Sql.Example.config).compile "Book"
      (byAuthorKey 7) .null none = .ok (booksOf 7) := (Compiler.compile_eq ..).trans rfl
  have compiledB : (Compiler.mk Sql.Example.schema Sql.Example.config).compile "Author"
      (byBookKey 2) .null none = .ok (authorsOf 2) := (Compiler.compile_eq ..).trans rfl
  have hbook : Sql.Example.book ∈ Sql.Example.schema.entities := by simp [Sql.Example.schema]
  have hauthor : Sql.Example.author ∈ Sql.Example.schema.entities := by simp [Sql.Example.schema]
  have author : Relation.toOne "author" "Author" "author_id" ∈ Sql.Example.book.relations :=
    List.mem_cons_self
  have books : Relation.toMany "books" "Book" "author_id" ∈ Sql.Example.author.relations :=
    List.mem_cons_self
  have mirror := (converse_relations_mirror Sql.Example.schema_built hbook hauthor ⟨_, rfl, rfl⟩
    ⟨_, rfl, rfl⟩ author books rfl rfl (.reverse "author_id") compiledA compiledB foundA foundB).2
  have numbers : library.HasNumbers := by decide
  have keepsA : library.KeepsIntegers "book" "id" := .of_numbers numbers (by decide)
  have keepsB : library.KeepsIntegers "author" "id" := .of_numbers numbers (by decide)
  exact ⟨foundA, foundB, mirror keepsA keepsB⟩

open Bookcase in
/-- The key of the book is kept as a text, and returned as one, though the schema says that it is
an integer. -/
theorem archived_key_is_text :
    Registry.build archived.entities [] = .ok archived ∧
      (∀ d ∈ Sql.tables archived, (archivedLibrary.table? d.name).map (·.definition) = some d) ∧
      (Compiler.mk archived Sql.Example.config).compile "Book" (byAuthorKey 7) .null none =
        .ok (booksOf 7) ∧
      (Compiler.mk archived Sql.Example.config).compile "Author" (byBookKey 1) .null none =
        .ok (authorsOf 1) ∧
      archivedLibrary.execute archived (booksOf 7) = .ok [.text "1"] ∧
      archivedLibrary.execute archived (authorsOf 1) = .ok [number 7] ∧
      ¬ (Json.int 1 ∈ [Value.text "1"].map Value.toJson ↔
        Json.int 7 ∈ [number 7].map Value.toJson) := by
  refine ⟨by rfl, by decide, (Compiler.compile_eq ..).trans rfl, (Compiler.compile_eq ..).trans rfl,
    by decide +kernel, by decide +kernel, ?_⟩
  intro mirror
  have one := mirror.mpr (List.mem_singleton.mpr rfl)
  cases List.mem_singleton.mp one

end Store

end FieldSearch
