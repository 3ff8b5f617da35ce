import FieldSearch.Proofs.Schema.Acceptance
import FieldSearch.Proofs.Search.Growth
import FieldSearch.Proofs.Sql.Rendering

/-!
# Statements over a grown schema

A statement reads of the schema only what the names of its plan stand for. When these are found in
a registry, they are found alike in one that includes it, and the statement is the same.
-/

namespace FieldSearch.Sql

section Scope

variable {large small : Registry} (includes : large.Includes small) (consistent : large.Consistent)

include includes consistent

theorem entityNamed_grown {name : String} {e : Entity} (h : entityNamed small name = .ok e) :
    entityNamed large name = .ok e := by
  rw [entityNamed_eq_ok] at h ⊢
  exact includes.entity? consistent h

theorem Binding.ofEntry_grown {e : JoinEntry} {b : Binding} (h : ofEntry small e = .ok b) :
    ofEntry large e = .ok b := by
  obtain ⟨source, hsource, h⟩ := bind_eq_ok.mp h
  refine bind_eq_ok.mpr ⟨source, entityNamed_grown includes consistent hsource, ?_⟩
  cases hr : source.relation? e.relation with
  | none =>
    simp only [hr] at h
    cases h
  | some r =>
    simp only [hr] at h ⊢
    obtain ⟨target, htarget, h⟩ := bind_eq_ok.mp h
    exact bind_eq_ok.mpr ⟨target, entityNamed_grown includes consistent htarget, h⟩

/-- The names of a plan keep what they stand for. -/
theorem Scope.ofPlan_grown {plan : Plan} {s : Scope} (h : ofPlan small plan = .ok s) :
    ofPlan large plan = .ok s := by
  obtain ⟨root, hroot, h⟩ := bind_eq_ok.mp h
  obtain ⟨bindings, hbindings, h⟩ := bind_eq_ok.mp h
  refine bind_eq_ok.mpr ⟨root, entityNamed_grown includes consistent hroot, ?_⟩
  refine bind_eq_ok.mpr ⟨bindings, mapM_eq_ok.mpr ?_, h⟩
  refine (mapM_eq_ok.mp hbindings).imp fun e pair hpair => ?_
  obtain ⟨b, hb, hpair⟩ := bind_eq_ok.mp hpair
  exact bind_eq_ok.mpr ⟨b, Binding.ofEntry_grown includes consistent hb, hpair⟩

/-- Both statements of a plan whose names stand for something are the same over both registries. -/
theorem statements_grown {plan : Plan} {s : Scope} (h : Scope.ofPlan small plan = .ok s) :
    select large plan = select small plan ∧ count large plan = count small plan := by
  have hlarge := Scope.ofPlan_grown includes consistent h
  constructor
  · simp only [select, h, hlarge]
  · simp only [count, h, hlarge]

end Scope

/-- All names of a compiled plan stand for something, however many joins it has. -/
theorem Scope.exists_ofPlan {registry : Registry} (consistent : registry.Consistent)
    {config : Config} {name : String} {filter orderBy : Json} {page : Option Page} {plan : Plan}
    (compiled : (Compiler.mk registry config).compile name filter orderBy page = .ok plan) :
    ∃ s, ofPlan registry plan = .ok s := by
  obtain ⟨root, hentity, wf⟩ := Compiler.compile_joins consistent compiled
  have hroot : registry.entity? root.name = some root :=
    (Registry.entity?_eq_some hentity).2 ▸ hentity
  -- occurrences may repeat if there are too many of them, but each entry names what it names
  obtain ⟨bindings, hbindings⟩ : ∃ bindings,
      (plan.joins.mapM fun e => do
        pure (e.occurrence, ← Binding.ofEntry registry e) : Except RenderError _) =
        .ok bindings := by
    refine exists_mapM_eq_ok fun e he => ?_
    obtain ⟨r, target, -, -, -, hb⟩ := Binding.ofEntry_eq_ok hroot (wf e he)
    exact ⟨_, bind_eq_ok.mpr ⟨_, hb, rfl⟩⟩
  exact ⟨⟨root, bindings⟩, bind_eq_ok.mpr
    ⟨root, entityNamed_eq_ok.mpr hentity, bind_eq_ok.mpr ⟨bindings, hbindings, rfl⟩⟩⟩

/-- A search that is accepted over a schema is accepted with the same plan and the same statements
over every schema that has grown from it. -/
theorem grown_schema_keeps_searches {entities entities' : List Entity}
    {aliases aliases' : List EntityAlias} {small large : Registry}
    (built : Registry.build entities aliases = .ok small)
    (grown : Registry.build entities' aliases' = .ok large) (includes : large.Includes small)
    {config : Config} {name : String} {filter orderBy : Json} {page : Option Page} {plan : Plan}
    (compiled : (Compiler.mk small config).compile name filter orderBy page = .ok plan) :
    (Compiler.mk large config).compile name filter orderBy page = .ok plan ∧
      select large plan = select small plan ∧ count large plan = count small plan ∧
      (plan.joins.length < UInt32.size →
        (∃ f, select large plan = .ok f) ∧ ∃ f, count large plan = .ok f) := by
  have consistent := Registry.build_consistent built
  have consistent' := Registry.build_consistent grown
  have compiled' := Compiler.compile_within includes consistent' compiled
  obtain ⟨s, hs⟩ := Scope.exists_ofPlan consistent compiled
  obtain ⟨hselect, hcount⟩ := statements_grown includes consistent' hs
  refine ⟨compiled', hselect, hcount, fun size => ?_⟩
  obtain ⟨root, wf⟩ := Compiler.compile_wellFormed consistent' compiled' size
  obtain ⟨-, c, -, -, -, hselect', hcount'⟩ := wellFormed_rendered wf
  exact ⟨⟨_, hselect'⟩, _, hcount'⟩

namespace Example

/-- A publisher may be called an editor, as a relation of books is. -/
def publisher : Entity :=
  ⟨"Publisher", "publisher", "id", true, [⟨"id", .integer⟩, ⟨"Author", .string⟩],
    [.toMany "Book" "Book" "publisher_id"]⟩

def house : EntityAlias := ⟨"editor", "Publisher", none⟩

def grownLibrary : Registry :=
  ⟨[Registry.Sample.author, Registry.Sample.book, publisher],
    [Registry.Sample.writer, house]⟩

/-- Books by a writer of one name, or with an editor of one key, whatever their order. -/
def byWriterOrEditor : Json :=
  .array [.string "or", .array [
    .array [.string "Writer", .string "name", .string "=", .string "Ann"],
    .array [.string "Book", .string "Author", .string "=", .int 3]]]

def writerPlan : Plan where
  root := "Book"
  predicate := .or [.exist ⟨1⟩ (.compare ⟨⟨1⟩, "name"⟩ .eq (.string "Ann")),
    .exist ⟨2⟩ (.compare ⟨⟨2⟩, "id"⟩ .eq (.integer 3))]
  joins := [⟨⟨1⟩, "Book", "writer", "Author", .toOne⟩, ⟨⟨2⟩, "Book", "editor", "Author", .toOne⟩]
  orderBy := [⟨⟨.root, "id"⟩, .asc, false⟩]
  page := none

end Example

theorem grown_library_keeps_writers :
    (Compiler.mk Example.grownLibrary Example.config).compile "Book" Example.byWriterOrEditor .null
      none = .ok Example.writerPlan ∧
    (∃ f, select Example.grownLibrary Example.writerPlan = .ok f) := by
  have built : Registry.build [Registry.Sample.book, Registry.Sample.author]
      [Registry.Sample.writer] = .ok Registry.Sample.library := rfl
  have grown : Registry.build [Registry.Sample.book, Registry.Sample.author, Example.publisher]
      [Registry.Sample.writer, Example.house] = .ok Example.grownLibrary := rfl
  have includes : Example.grownLibrary.Includes Registry.Sample.library := by
    constructor
    · simp [Example.grownLibrary, Registry.Sample.library]
    · simp [Example.grownLibrary, Registry.Sample.library]
  have compiled : (Compiler.mk Registry.Sample.library Example.config).compile "Book"
      Example.byWriterOrEditor .null none = .ok Example.writerPlan :=
    (Compiler.compile_eq ..).trans rfl
  obtain ⟨same, -, -, renders⟩ := grown_schema_keeps_searches built grown includes compiled
  exact ⟨same, (renders (by decide)).1⟩

end FieldSearch.Sql
