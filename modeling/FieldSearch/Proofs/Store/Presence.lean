import FieldSearch.Proofs.Filter.Grammar
import FieldSearch.Proofs.Store.Answer
import FieldSearch.Proofs.Store.Ordering

/-!
# Presence of related rows

A relation that is compared with null asks whether it leads anywhere. Relations that other tables
store do just if they lead to some row, the rows over which a leaf through the relation ranges. A
foreign key that is not null is taken to lead somewhere without a look at the target. That makes a
difference only where it refers to no row.
-/

namespace FieldSearch

open Sql

namespace Sql.Binding

/-- The relation is a foreign key that refers to no row although it is not null. -/
def dangles (b : Binding) (s : Store) (source : Store.Record) : Bool :=
  match b.relation.join with
  | .foreignKey column => !(source.value column).isNull && (b.targets s source).isEmpty
  | .reverse _ => false
  | .association _ _ _ => false

/-- Only a foreign key that is not null refers to a row. -/
theorem key_not_null {b : Binding} {column : String} (hj : b.relation.join = .foreignKey column)
    {s : Store} {source target : Store.Record} (h : target ∈ b.targets s source) :
    (source.value column).isNull = false := by
  obtain ⟨-, hlinks⟩ := List.mem_filter.mp h
  rw [links, hj] at hlinks
  have hequal := beq_iff_eq.mp hlinks
  by_contra hnull
  cases hv : source.value column with
  | null =>
    have hkey : (source.column column).2 = .null := hv
    rw [Value.columnsEqual, hkey] at hequal
    split at hequal <;> simp [Value.equal, Value.test, Value.isNull, Value.asNumber] at hequal
  | _ => exact hnull (by rw [hv]; rfl)

/-- A relation leads anywhere just if it leads to a row or dangles. -/
theorem leads_eq (b : Binding) (s : Store) (source : Store.Record) :
    b.leads s source = (!(b.targets s source).isEmpty || b.dangles s source) := by
  cases hj : b.relation.join with
  | foreignKey column =>
    simp only [leads, dangles, hj]
    cases htargets : b.targets s source with
    | nil => simp
    | cons target rest =>
      have hmem : target ∈ b.targets s source := htargets ▸ List.mem_cons_self
      simp [key_not_null hj hmem]
  | reverse column => simp only [leads, dangles, hj, Bool.or_false]
  | association table sourceColumn targetColumn =>
    simp only [leads, dangles, hj, Bool.or_false]

end Sql.Binding

/-- The filter that asks whether a relation leads anywhere, or nowhere. -/
def presenceNode (entity relation : String) (present : Bool) : Json :=
  .array [.string entity, .string relation, .string (if present then "!=" else "="), .null]

theorem parse_presenceNode {bounds : Bounds} (depth : 1 ≤ bounds.maxDepth)
    (leaves : 1 ≤ bounds.maxLeaves) (entity relation : String) (present : Bool) :
    Filter.parse bounds (presenceNode entity relation present) =
      .ok (.leaf ⟨[entity, relation], if present then .ne else .eq, .null,
        presenceNode entity relation present⟩) := by
  have mirrors : ∀ {token : String} {comparison : Comparison},
      (token, comparison) ∈ Comparison.tokenTable →
      Filter.Mirrors (Filter.leafNode [entity, relation] token .null)
        (.leaf ⟨[entity, relation], comparison, .null,
          Filter.leafNode [entity, relation] token .null⟩) :=
    fun known => .leaf .null (Nat.le_refl 2) known
  cases present with
  | true => exact Filter.parse_eq_ok.mpr ⟨mirrors (by decide), depth, leaves⟩
  | false => exact Filter.parse_eq_ok.mpr ⟨mirrors (by decide), depth, leaves⟩

/-- No attribute has the name of a relation. -/
theorem Entity.Sound.attribute?_relation {e : Entity} (sound : e.Sound) {r : Relation}
    (hr : r ∈ e.relations) : e.attribute? r.name = none := by
  obtain ⟨-, -, apart⟩ := List.nodup_append.mp sound.members
  rw [Entity.attribute?, List.find?_eq_none]
  intro a ha hname
  have same : a.name = r.name := by simpa using hname
  exact apart a.name (List.mem_map_of_mem ha) r.name (List.mem_map_of_mem hr) same

/-- A leaf that compares a relation of the root with null resolves to a test of that relation. -/
theorem Scope.leaf_presence {scope : Scope} (sound : scope.root.Sound)
    (start : scope.registry.searchable? scope.root.name = some scope.root) {r : Relation}
    (hr : r ∈ scope.root.relations) {comparison : Comparison}
    (equality : comparison.isEquality = true) (source : Json) :
    scope.leaf ⟨[scope.root.name, r.name], comparison, .null, source⟩ =
      .ok (.presence ⟨scope.root.name, r⟩ (comparison == .ne)) := by
  obtain ⟨hentity, searchable⟩ := Registry.searchable?_eq_some start
  have hattribute := sound.attribute?_relation hr
  have hrelation := sound.relation? hr
  have hstart : scope.registry.searchableOrAlias? scope.root.name = some (scope.root, none) := by
    simp [Registry.searchableOrAlias?, Registry.entityOrAlias?, hentity, searchable]
  simp [Scope.leaf, Leaf.hops, Leaf.entity, hstart, Scope.rootName, hattribute, hrelation,
    Scope.presenceLeaf, equality, Json.isNull]

section Search

variable {registry : Registry} {config : Config} {name : String} {root : Entity} {r : Relation}

theorem resolve_presenceNode (present : Bool) (consistent : registry.Consistent)
    (start : (Compiler.mk registry config).root name = .ok root) (hr : r ∈ root.relations)
    (depth : 1 ≤ config.maxDepth) (leaves : 1 ≤ config.maxLeaves) :
    (Compiler.mk registry config).resolve root (presenceNode name r.name present) =
      .ok (.leaf (.presence ⟨root.name, r⟩ present)) := by
  have hsearch : registry.searchable? name = some root := Compiler.root_eq_ok.mp start
  obtain ⟨hmem, rfl⟩ := Registry.entity?_eq_some (Compiler.root_entity start)
  have sound := consistent.sound root hmem
  refine bind_eq_ok.mpr ⟨_, parse_presenceNode depth leaves root.name r.name present, ?_⟩
  refine map_eq_ok.mpr ⟨_, Scope.leaf_presence sound hsearch hr ?_ _, ?_⟩
  · cases present <;> rfl
  · cases present <;> rfl

/-- A filter that asks about a relation is compiled, and its plan has one join. -/
theorem presence_compiles (present : Bool) (consistent : registry.Consistent)
    (start : (Compiler.mk registry config).root name = .ok root) (hr : r ∈ root.relations)
    (depth : 1 ≤ config.maxDepth) (leaves : 1 ≤ config.maxLeaves) {orderBy : Json}
    {terms : List OrderTerm}
    (ordering : (Compiler.mk registry config).ordering root orderBy = .ok terms) :
    ∃ plan, (Compiler.mk registry config).compile name (presenceNode name r.name present) orderBy
        none = .ok plan ∧
      (Compiler.mk registry config).Compiles name (presenceNode name r.name present) none plan root
        (.leaf (.presence ⟨root.name, r⟩ present)) := by
  have hresolve := resolve_presenceNode present consistent start hr depth leaves
  have compiled := Compiler.compile_of_stages start hresolve ordering none
  refine ⟨_, compiled, ?_⟩
  have one : (JoinPlan.ofFilter (.leaf (.presence ⟨root.name, r⟩ present))).entries.length ≤ 1 :=
    JoinPlan.ofFilter_length_le _
  have size := Nat.lt_of_le_of_lt one (by decide : 1 < UInt32.size)
  obtain ⟨start', resolved, compiles⟩ := Compiler.compile_compiles consistent compiled size
  cases start.symm.trans compiles.start
  cases hresolve.symm.trans compiles.resolve
  exact compiles

variable {present : Bool} {filter : Json} {plan : Plan} {st : Store}
  (compiles : (Compiler.mk registry config).Compiles name filter none plan root
    (.leaf (.presence ⟨root.name, r⟩ present)))

include compiles

theorem presence_quietOn {s : Sql.Scope} {c : Condition}
    (h : condition s 1 plan.predicate = .ok c) : st.QuietOn root plan c := by
  have serves := JoinPlan.ofFilter_serves (.leaf (.presence ⟨root.name, r⟩ present))
  obtain ⟨o, -, hp⟩ := (serves _ List.mem_cons_self _ rfl).allocate
  rw [compiles.predicate, Predicate.lowered_presence _ hp] at h
  obtain ⟨b, -, hc⟩ := bind_eq_ok.mp h
  cases hc
  intro rest row _
  exact Store.presence_quiet b o present _ _

/-- It returns the rows from which the relation leads anywhere, or nowhere. -/
theorem presence_executed (consistent : registry.Consistent) (carries : st.Carries registry)
    {b : Binding} (hb : Traversal.binding? registry ⟨root.name, r⟩ = some b) :
    ∃ keys, st.execute registry plan = .ok keys ∧
      keys.Perm (((st.records root.table).filter fun row =>
        b.leads st row == present).map (·.value root.primaryKey)) := by
  have wf := compiles.wellFormed
  obtain ⟨s, c, t, readable⟩ := carries.readable consistent wf
  have quiet : st.QuietOn root plan c := presence_quietOn compiles readable.rendered
  obtain ⟨keys, hkeys⟩ := readable.exists_execute quiet
  refine ⟨keys, hkeys, ?_⟩
  have htruth : ∀ row, plan.truth registry st row = some (b.leads st row == present) := by
    intro row
    rw [compiles.truth_eq consistent st row, ResolvedFilter.truth, ResolvedLeaf.truth, hb]
  have hfound := Store.execute_sound wf compiles.page hkeys
  simpa only [htruth, Option.some_beq_some, beq_true] using hfound

end Search

namespace Store

/-- A relation that is compared with null by `!=` finds the rows of the root from which it leads to
some row, over which a leaf through the relation ranges, and those on which it dangles. By `=` it
finds all other rows. -/
theorem presence_finds_related_rows {registry : Registry} {entities : List Entity}
    {aliases : List EntityAlias} (built : Registry.build entities aliases = .ok registry)
    {config : Config} {name : String} {root : Entity}
    (start : (Compiler.mk registry config).root name = .ok root) {r : Relation}
    (hr : r ∈ root.relations) {orderBy : Json} {terms : List OrderTerm}
    (ordering : (Compiler.mk registry config).ordering root orderBy = .ok terms)
    (depth : 1 ≤ config.maxDepth) (leaves : 1 ≤ config.maxLeaves) {st : Store}
    (carries : st.Carries registry) :
    ∃ b, Traversal.binding? registry ⟨root.name, r⟩ = some b ∧
      ∃ present absent related others,
        (Compiler.mk registry config).compile name
          (.array [.string name, .string r.name, .string "!=", .null]) orderBy none =
            .ok present ∧
        (Compiler.mk registry config).compile name
          (.array [.string name, .string r.name, .string "=", .null]) orderBy none =
            .ok absent ∧
        st.execute registry present = .ok related ∧ st.execute registry absent = .ok others ∧
        related.Perm (((st.records root.table).filter fun row =>
          !(b.targets st row).isEmpty || b.dangles st row).map (·.value root.primaryKey)) ∧
        others.Perm (((st.records root.table).filter fun row =>
          (b.targets st row).isEmpty && !b.dangles st row).map (·.value root.primaryKey)) := by
  have consistent := Registry.build_consistent built
  have hroot : root ∈ registry.entities := Compiler.root_mem start
  obtain ⟨target, -, htarget⟩ := consistent.target? hroot hr
  have hb : Traversal.binding? registry ⟨root.name, r⟩ = some ⟨root, r, target⟩ := by
    simp only [Traversal.binding?, consistent.entity? hroot, htarget, Option.bind_eq_bind,
      Option.bind_some]
    rfl
  obtain ⟨present, hpresent, compiles⟩ :=
    presence_compiles true consistent start hr depth leaves ordering
  obtain ⟨absent, habsent, compiles'⟩ :=
    presence_compiles false consistent start hr depth leaves ordering
  obtain ⟨related, hrelated, perm⟩ := presence_executed compiles consistent carries hb
  obtain ⟨others, hothers, perm'⟩ := presence_executed compiles' consistent carries hb
  refine ⟨_, hb, present, absent, related, others, hpresent, habsent, hrelated, hothers, ?_, ?_⟩
  · simpa only [Binding.leads_eq, beq_true] using perm
  · simpa only [Binding.leads_eq, beq_false, Bool.not_or, Bool.not_not] using perm'

namespace Bookcase

def byAuthor : Relation := .toOne "author" "Author" "author_id"

/-- Books by an author, or by none. -/
def authored (present : Bool) : Plan where
  root := "Book"
  predicate := .related ⟨1⟩ present
  joins := [⟨⟨1⟩, "Book", "author", "Author", .toOne⟩]
  orderBy := [⟨⟨.root, "id"⟩, .asc, false⟩]
  page := none

/-- A book by an author who is not there. -/
def orphan : Record where
  definition := ⟨"book", some "id", [⟨"id", .integer⟩, ⟨"title", .text⟩, ⟨"pages", .integer⟩,
    ⟨"author_id", .integer⟩]⟩
  cells := [number 2, .text "Two", .null, number 7]

/-- A store that holds the book and nothing else. -/
def orphaned : Store :=
  ⟨[⟨⟨"author", some "id", [⟨"id", .integer⟩, ⟨"born", .integer⟩]⟩, []⟩,
    ⟨orphan.definition, [⟨2, orphan.cells⟩]⟩,
    ⟨⟨"book\"tag", none, [⟨"book_id", .integer⟩, ⟨"tag_id", .integer⟩]⟩, []⟩,
    ⟨⟨"tag", some "id", [⟨"id", .integer⟩, ⟨"rank", .integer⟩]⟩, []⟩]⟩

end Bookcase

open Bookcase in
theorem library_authors :
    ∃ b, Traversal.binding? Sql.Example.schema ⟨"Book", byAuthor⟩ = some b ∧
      ∃ present absent related others,
        (Compiler.mk Sql.Example.schema Sql.Example.config).compile "Book"
          (.array [.string "Book", .string "author", .string "!=", .null]) .null none =
            .ok present ∧
        (Compiler.mk Sql.Example.schema Sql.Example.config).compile "Book"
          (.array [.string "Book", .string "author", .string "=", .null]) .null none =
            .ok absent ∧
        library.execute Sql.Example.schema present = .ok related ∧
        library.execute Sql.Example.schema absent = .ok others ∧
        related.Perm (((library.records "book").filter fun row =>
          !(b.targets library row).isEmpty || b.dangles library row).map (·.value "id")) ∧
        others.Perm (((library.records "book").filter fun row =>
          (b.targets library row).isEmpty && !b.dangles library row).map (·.value "id")) :=
  presence_finds_related_rows Sql.Example.schema_built book_start (r := byAuthor)
    List.mem_cons_self book_ordering (by decide) (by decide) library_hosts.carries

open Bookcase in
/-- The author of the only book is not there, and yet the book is found among those by an author. -/
theorem orphan_has_author :
    Registry.build [Sql.Example.tag, Sql.Example.book, Sql.Example.author] [] =
        .ok Sql.Example.schema ∧
      orphaned.Carries Sql.Example.schema ∧
      (Compiler.mk Sql.Example.schema Sql.Example.config).compile "Book"
        (.array [.string "Book", .string "author", .string "!=", .null]) .null none =
          .ok (authored true) ∧
      (Compiler.mk Sql.Example.schema Sql.Example.config).compile "Book"
        (.array [.string "Book", .string "author", .string "=", .null]) .null none =
          .ok (authored false) ∧
      orphaned.records "book" = [orphan] ∧
      Binding.targets ⟨Sql.Example.book, byAuthor, Sql.Example.author⟩ orphaned orphan = [] ∧
      orphaned.execute Sql.Example.schema (authored true) = .ok [number 2] ∧
      orphaned.execute Sql.Example.schema (authored false) = .ok [] :=
  ⟨by rfl, by decide, (Compiler.compile_eq ..).trans rfl, (Compiler.compile_eq ..).trans rfl,
    by rfl, by rfl, by decide, by decide⟩

end Store

end FieldSearch
