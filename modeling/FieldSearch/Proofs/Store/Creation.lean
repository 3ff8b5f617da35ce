import FieldSearch.Proofs.Schema.Acceptance
import FieldSearch.Proofs.Sql.Declaration
import FieldSearch.Proofs.Store.Hosts
import FieldSearch.Proofs.Store.SameRows

/-!
# Creating the tables of a schema

Schemas tell names apart exactly, the store whatever their case. The tables of an accepted schema
can all be created, each with all its columns, just if no two names of tables, and no two names of
columns of one table, differ by case alone; and if the store can read the names and leaves them to
its users.
-/

namespace FieldSearch

open Sql

namespace Store

/-- The store has room for all that the schema stores. -/
structure Creatable (registry : Registry) : Prop where
  legible : ∀ table column, Stores registry table column →
    '\x00' ∉ table.toList ∧ '\x00' ∉ column.toList
  free : ∀ table column, Stores registry table column → isReserved table = false
  tables : ∀ table column table' column', Stores registry table column →
    Stores registry table' column' → sameName table table' = true → table = table'
  columns : ∀ table column column', Stores registry table column →
    Stores registry table column' → sameName column column' = true → column = column'

/-! ### Tables that can be created -/

/-- A NUL in a declaration would stand in one of its names. -/
theorem createText_legible {d : TableDef} (hname : '\x00' ∉ d.name.toList)
    (hcolumns : ∀ c ∈ d.columns, '\x00' ∉ c.name.toList) : hasNul d.createText = false := by
  rw [hasNul_eq_false]
  intro hnul
  obtain ⟨name, hquoted, hmem⟩ := Token.nul_quoted d.reads_create hnul
  have hnames : name ∈ d.name :: d.columns.map (·.name) := by
    rw [← d.quoted_createTokens]
    exact List.mem_filterMap.mpr ⟨_, hquoted, rfl⟩
  rcases List.mem_cons.mp hnames with rfl | hnames
  · exact hname hmem
  · obtain ⟨c, hc, rfl⟩ := List.mem_map.mp hnames
    exact hcolumns c hc hmem

theorem hasDuplicate_eq_false {d : TableDef} :
    d.hasDuplicate = false ↔ (d.columns.map (nameKey ·.name)).Nodup := by
  simp [TableDef.hasDuplicate]

/-- What creating a table does: nothing if its name is taken, else there is one more table. -/
theorem create_eq_ok {s s' : Store} {d : TableDef} (h : s.create d = .ok s') :
    hasNul d.createText = false ∧ isReserved d.name = false ∧
      (((s.table? d.name).isSome = true ∧ s' = s) ∨
        (s.table? d.name = none ∧ d.hasDuplicate = false ∧ s' = ⟨s.tables ++ [⟨d, []⟩]⟩)) := by
  rw [create] at h
  split at h
  next => cases h
  next legible =>
    split at h
    next => cases h
    next free =>
      refine ⟨by simpa using legible, by simpa using free, ?_⟩
      split at h
      next taken => cases h; exact .inl ⟨taken, rfl⟩
      next new =>
        split at h
        next => cases h
        next distinct =>
          cases h
          exact .inr ⟨by simpa using new, by simpa using distinct, rfl⟩

/-- A name of its own finds each of the tables that are created. -/
theorem createAll_eq_ok {ds : List TableDef} (s : Store)
    (legible : ∀ d ∈ ds, hasNul d.createText = false)
    (free : ∀ d ∈ ds, isReserved d.name = false) (new : ∀ d ∈ ds, s.table? d.name = none)
    (apart : ds.Pairwise fun d d' => sameName d.name d'.name = false)
    (distinct : ∀ d ∈ ds, d.hasDuplicate = false) :
    s.createAll ds = (⟨s.tables ++ ds.map (⟨·, []⟩)⟩, .ok ()) := by
  induction ds generalizing s with
  | nil => simp [createAll]
  | cons d rest ih =>
    rw [List.forall_mem_cons] at legible free new distinct
    obtain ⟨first, others⟩ := List.pairwise_cons.mp apart
    have hcreate : s.create d = .ok ⟨s.tables ++ [⟨d, []⟩]⟩ := by
      simp [create, legible.1, free.1, new.1, distinct.1]
    have hnew : ∀ d' ∈ rest, (Store.mk (s.tables ++ [⟨d, []⟩])).table? d'.name = none := by
      intro d' hd'
      have hnone := new.2 d' hd'
      rw [table?] at hnone ⊢
      simp [List.find?_append, hnone, first d' hd']
    rw [createAll, hcreate]
    simp only
    rw [ih _ legible.2 free.2 hnew others distinct.2]
    simp

/-- After tables have been created without an error, they are legible, free and of distinct
columns, as far as they are there. -/
theorem createAll_checks {ds : List TableDef} {s : Store}
    (old : ∀ t ∈ s.tables, t.definition.hasDuplicate = false)
    (h : (s.createAll ds).2 = .ok ()) :
    (∀ d ∈ ds, hasNul d.createText = false ∧ isReserved d.name = false) ∧
      ∀ t ∈ (s.createAll ds).1.tables, t.definition.hasDuplicate = false := by
  induction ds generalizing s with
  | nil => exact ⟨by simp, old⟩
  | cons d rest ih =>
    rw [createAll] at h ⊢
    split at h
    next s' hcreate =>
      obtain ⟨legible, free, hs'⟩ := create_eq_ok hcreate
      have old' : ∀ t ∈ s'.tables, t.definition.hasDuplicate = false := by
        rcases hs' with ⟨-, rfl⟩ | ⟨-, distinct, rfl⟩
        · exact old
        · exact List.forall_mem_append.mpr ⟨old, List.forall_mem_singleton.mpr distinct⟩
      obtain ⟨checks, kept⟩ := ih old' h
      exact ⟨List.forall_mem_cons.mpr ⟨⟨legible, free⟩, checks⟩, kept⟩
    next => cases h

/-! ### Schemas that can be created -/

section Schema

variable {registry : Registry}

theorem stores_of_mem {d : TableDef} (hd : d ∈ Sql.tables registry) {c : ColumnDef}
    (hc : c ∈ d.columns) : Stores registry d.name c.name :=
  declares_iff_stores.mp ⟨d, hd, rfl, c, hc, rfl⟩

theorem Creatable.createSchema (consistent : registry.Consistent) (h : Creatable registry) :
    empty.createSchema registry = (⟨(Sql.tables registry).map (⟨·, []⟩)⟩, .ok ()) := by
  have some : ∀ d ∈ Sql.tables registry, ∃ c ∈ d.columns, Stores registry d.name c.name := by
    intro d hd
    obtain ⟨c, hc⟩ := List.exists_mem_of_ne_nil _ (columns_ne_nil consistent hd)
    exact ⟨c, hc, stores_of_mem hd hc⟩
  refine createAll_eq_ok empty ?_ ?_ (fun _ _ => rfl) ?_ ?_
  · intro d hd
    obtain ⟨c, -, hstores⟩ := some d hd
    refine createText_legible (h.legible _ _ hstores).1 fun c' hc' => ?_
    exact (h.legible _ _ (stores_of_mem hd hc')).2
  · intro d hd
    obtain ⟨c, -, hstores⟩ := some d hd
    exact h.free _ _ hstores
  · have names := (tables_sorted registry).names_nodup
    rw [List.Nodup, List.pairwise_map] at names
    refine names.imp_of_mem fun {d d'} hd hd' hne => ?_
    obtain ⟨c, -, hstores⟩ := some d hd
    obtain ⟨c', -, hstores'⟩ := some d' hd'
    exact Bool.eq_false_iff.mpr fun same => hne (h.tables _ _ _ _ hstores hstores' same)
  · intro d hd
    have names := columns_distinct hd
    rw [hasDuplicate_eq_false]
    rw [List.Nodup, List.pairwise_map] at names ⊢
    refine names.imp_of_mem fun {c c'} hc hc' hne heq => hne ?_
    exact h.columns _ _ _ (stores_of_mem hd hc) (stores_of_mem hd hc') (by simp [sameName, heq])

/-- Each name finds the table that was created for it. -/
theorem Creatable.table? (consistent : registry.Consistent) (h : Creatable registry)
    {d : TableDef} (hd : d ∈ Sql.tables registry) :
    (empty.createSchema registry).1.table? d.name = some ⟨d, []⟩ := by
  rw [h.createSchema consistent, Store.table?, List.find?_map]
  have found : (Sql.tables registry).find? (sameName ·.name d.name) = some d := by
    have itself : ((Sql.tables registry).find? (sameName ·.name d.name)).isSome := by
      rw [List.find?_isSome]
      exact ⟨d, hd, by simp [sameName]⟩
    obtain ⟨d', hfind⟩ := Option.isSome_iff_exists.mp itself
    have hd' := List.mem_of_find?_eq_some hfind
    have same : sameName d'.name d.name = true := by simpa using List.find?_some hfind
    obtain ⟨c, hc⟩ := List.exists_mem_of_ne_nil _ (columns_ne_nil consistent hd)
    obtain ⟨c', hc'⟩ := List.exists_mem_of_ne_nil _ (columns_ne_nil consistent hd')
    have hname := h.tables _ _ _ _ (stores_of_mem hd' hc') (stores_of_mem hd hc) same
    rw [hfind, List.inj_on_of_nodup_map (tables_sorted registry).names_nodup hd' hd hname]
  exact congrArg (Option.map _) found

/-- The tables that are created are what a search on the schema needs. -/
theorem Creatable.hosts (consistent : registry.Consistent) (h : Creatable registry) :
    (empty.createSchema registry).1.Hosts registry := by
  have created := h.createSchema consistent
  refine ⟨by rw [created], fun d hd => by rw [h.table? consistent hd]; rfl, ?_⟩
  intro e he a ha _ r hr
  obtain ⟨d, hd, hname, -⟩ := tables_declare_attribute he ha
  rw [← hname, records, h.table? consistent hd] at hr
  cases hr

theorem creatable_of_created
    (created : (empty.createSchema registry).2 = .ok ())
    (there : ∀ d ∈ Sql.tables registry,
      ((empty.createSchema registry).1.table? d.name).map (·.definition) = some d) :
    Creatable registry := by
  obtain ⟨checks, kept⟩ := createAll_checks (s := empty) (by simp [empty]) created
  have declared {table column : String} (h : Stores registry table column) :
      ∃ d ∈ Sql.tables registry, d.name = table ∧ ∃ c ∈ d.columns, c.name = column :=
    declares_iff_stores.mpr h
  constructor
  case legible =>
    intro table column h
    obtain ⟨d, hd, rfl, c, hc, rfl⟩ := declared h
    have legible := table_legible (t := ⟨d, []⟩) (checks d hd).1
    exact ⟨legible.1, legible.2 c hc⟩
  case free =>
    intro table column h
    obtain ⟨d, hd, rfl, -⟩ := declared h
    exact (checks d hd).2
  case tables =>
    intro table column table' column' h h' same
    obtain ⟨d, hd, rfl, -⟩ := declared h
    obtain ⟨d', hd', rfl, -⟩ := declared h'
    have found := there d hd
    rw [table?_congr same, there d' hd'] at found
    exact congrArg TableDef.name (Option.some.inj found).symm
  case columns =>
    intro table column column' h h' same
    obtain ⟨d, hd, rfl, c, hc, rfl⟩ := declared h
    obtain ⟨d', hd', hname, c', hc', rfl⟩ := declared h'
    have found := there d' hd'
    rw [hname, there d hd] at found
    rw [← Option.some.inj found] at hc'
    obtain ⟨t, ht, hdefinition⟩ := Option.map_eq_some_iff.mp (there d hd)
    have distinct := kept t (List.mem_of_find?_eq_some ht)
    rw [hdefinition, hasDuplicate_eq_false] at distinct
    exact congrArg ColumnDef.name
      (List.inj_on_of_nodup_map distinct hc hc' (by simpa [sameName] using same))

end Schema

/-- The tables of an accepted schema can be created in an empty store, each with all its columns,
just if names that the store has to tell apart differ by more than case, can be read and are not
reserved. The store has then those tables and nothing else. -/
theorem schema_created_exactly {entities : List Entity} {aliases : List EntityAlias}
    {registry : Registry} (built : Registry.build entities aliases = .ok registry) :
    (((empty.createSchema registry).2 = .ok () ∧ ∀ d ∈ Sql.tables registry,
        ((empty.createSchema registry).1.table? d.name).map (·.definition) = some d) ↔
      Creatable registry) ∧
    (Creatable registry →
      empty.createSchema registry = (⟨(Sql.tables registry).map (⟨·, []⟩)⟩, .ok ())) := by
  have consistent := Registry.build_consistent built
  refine ⟨⟨fun ⟨created, there⟩ => creatable_of_created created there, fun h => ?_⟩,
    fun h => h.createSchema consistent⟩
  refine ⟨by rw [h.createSchema consistent], fun d hd => ?_⟩
  rw [h.table? consistent hd]
  rfl

theorem sample_created :
    Creatable Registry.Sample.library ∧ empty.createSchema Registry.Sample.library =
      (⟨(Sql.tables Registry.Sample.library).map (⟨·, []⟩)⟩, .ok ()) := by
  have built : Registry.build [Registry.Sample.book, Registry.Sample.author]
      [Registry.Sample.writer] = .ok Registry.Sample.library := rfl
  obtain ⟨exact, creates⟩ := schema_created_exactly built
  have creatable := exact.mp ⟨by decide +kernel, by decide +kernel⟩
  exact ⟨creatable, creates creatable⟩

namespace Bookcase

/-- Two attributes differ by case alone. -/
def note : Entity :=
  ⟨"Note", "note", "id", true, [⟨"id", .integer⟩, ⟨"text", .string⟩, ⟨"Text", .string⟩], []⟩

/-- Two tables differ by case alone. -/
def term : Entity := ⟨"Term", "Gloss", "id", true, [⟨"id", .integer⟩], []⟩

def gloss : Entity := ⟨"Gloss", "gloss", "id", true, [⟨"id", .integer⟩, ⟨"rank", .integer⟩], []⟩

end Bookcase

/-- Case variants of a column are refused, those of a table are passed over in silence. -/
theorem case_variants_clash :
    (Registry.build [Bookcase.note] [] = .ok ⟨[Bookcase.note], []⟩ ∧
      (empty.createSchema ⟨[Bookcase.note], []⟩).2 = .error (.duplicateColumn "note")) ∧
    (Registry.build [Bookcase.gloss, Bookcase.term] [] = .ok ⟨[Bookcase.gloss, Bookcase.term], []⟩ ∧
      (empty.createSchema ⟨[Bookcase.gloss, Bookcase.term], []⟩).2 = .ok () ∧
      ((empty.createSchema ⟨[Bookcase.gloss, Bookcase.term], []⟩).1.table? "gloss").map
        (fun t => t.definition.columns.map (·.name)) = some ["id"]) :=
  ⟨⟨rfl, by decide⟩, rfl, by decide, by decide⟩

end Store

end FieldSearch
