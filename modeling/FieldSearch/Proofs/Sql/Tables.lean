import FieldSearch.Proofs.Sql.Declared
import Mathlib.Data.List.Induction

/-!
# What the tables declare

The tables of a schema are told apart by their names. Each has the columns of the entities that are
kept in it, followed by those that store relations; a name that is declared again keeps its first
type. The key is that of the last of the entities.
-/

namespace FieldSearch.Sql

/-! ### Tables by name -/

def Sorted (ts : List TableDef) : Prop := ts.Pairwise (·.name < ·.name)

/-- The table of a name, without columns where there is none. -/
def tableNamed (ts : List TableDef) (name : String) : TableDef :=
  (ts.find? (·.name == name)).getD (.empty name)

theorem Sorted.names_nodup {ts : List TableDef} (sorted : Sorted ts) :
    (ts.map (·.name)).Nodup := by
  rw [List.Nodup, List.pairwise_map]
  refine sorted.imp fun {t u} hlt heq => ?_
  rw [heq] at hlt
  exact String.lt_irrefl _ hlt

theorem Sorted.tableNamed_eq {ts : List TableDef} (sorted : Sorted ts) {t : TableDef}
    (ht : t ∈ ts) : tableNamed ts t.name = t := by
  rw [tableNamed, find?_name_of_mem TableDef.name sorted.names_nodup ht]
  rfl

theorem find?_eq_none_of_lt {name : String} {ts : List TableDef} (h : ∀ t ∈ ts, name < t.name) :
    ts.find? (·.name == name) = none := by
  rw [List.find?_eq_none]
  intro t ht
  have hne : t.name ≠ name := fun heq => String.lt_irrefl _ (heq ▸ h t ht)
  simpa using hne

section UpdateTable

variable {name : String} {f : TableDef → TableDef} (keepsName : ∀ t, (f t).name = t.name)

include keepsName

theorem names_updateTable (ts : List TableDef) {table : String} :
    table ∈ (updateTable name f ts).map (·.name) ↔ table = name ∨ table ∈ ts.map (·.name) := by
  induction ts with
  | nil => simp [updateTable, keepsName, TableDef.empty]
  | cons t rest ih =>
    rw [updateTable]
    split
    · simp [keepsName, TableDef.empty]
    · split
      next heq => simp [keepsName, heq]
      next => rw [List.map_cons, List.mem_cons, ih, List.map_cons, List.mem_cons, or_left_comm]

theorem updateTable_sorted {ts : List TableDef} (sorted : Sorted ts) :
    Sorted (updateTable name f ts) := by
  induction ts with
  | nil => exact List.pairwise_singleton _ _
  | cons t rest ih =>
    obtain ⟨first, others⟩ := List.pairwise_cons.mp sorted
    rw [updateTable]
    split
    next hlt =>
      refine List.pairwise_cons.mpr ⟨fun u hu => ?_, sorted⟩
      rw [keepsName]
      rcases List.mem_cons.mp hu with rfl | hu
      · exact hlt
      · exact String.lt_trans hlt (first u hu)
    next hge =>
      split
      next heq =>
        refine List.pairwise_cons.mpr ⟨fun u hu => ?_, others⟩
        rw [keepsName]
        exact first u hu
      next hne =>
        have hlt : t.name < name := by
          refine String.not_le.mp fun hle => hne (String.le_antisymm ?_ hle)
          exact String.not_lt.mp hge
        refine List.pairwise_cons.mpr ⟨fun u hu => ?_, ih others⟩
        rcases (names_updateTable keepsName rest).mp (List.mem_map_of_mem hu) with heq | hmem
        · exact heq ▸ hlt
        · obtain ⟨v, hv, heq⟩ := List.mem_map.mp hmem
          exact heq ▸ first v hv

/-- An update changes the table of its name and no other. -/
theorem tableNamed_updateTable {ts : List TableDef} (sorted : Sorted ts) (table : String) :
    tableNamed (updateTable name f ts) table =
      if table = name then f (tableNamed ts name) else tableNamed ts table := by
  have hempty : (f (.empty name)).name = name := keepsName _
  induction ts with
  | nil =>
    by_cases h : table = name
    · simp [updateTable, tableNamed, hempty, h]
    · simp [updateTable, tableNamed, hempty, h, Ne.symm h]
  | cons t rest ih =>
    obtain ⟨first, others⟩ := List.pairwise_cons.mp sorted
    rw [updateTable]
    split
    next hlt =>
      have hnone : (t :: rest).find? (·.name == name) = none := by
        refine find?_eq_none_of_lt (List.forall_mem_cons.mpr ⟨hlt, fun u hu => ?_⟩)
        exact String.lt_trans hlt (first u hu)
      by_cases h : table = name
      · simp [tableNamed, hempty, h, hnone]
      · simp [tableNamed, hempty, h, Ne.symm h]
    next =>
      split
      next heq =>
        by_cases h : table = name
        · simp [tableNamed, keepsName, heq, h]
        · simp [tableNamed, keepsName, heq, h, Ne.symm h]
      next hne =>
        have ih := ih others
        by_cases ht : t.name = table
        · have h : table ≠ name := fun h => hne (ht.trans h)
          simp [tableNamed, ht, h]
        · simp only [tableNamed, List.find?_cons, beq_eq_false_iff_ne.mpr ht,
            beq_eq_false_iff_ne.mpr hne] at ih ⊢
          exact ih

end UpdateTable

section Updates

variable {α : Type} {table : α → String} {step : α → TableDef → TableDef}

/-- One update after another. -/
def updateTables (table : α → String) (step : α → TableDef → TableDef) (ts : List TableDef)
    (as : List α) : List TableDef :=
  as.foldl (fun ts a => updateTable (table a) (step a) ts) ts

variable (keepsName : ∀ a t, (step a t).name = t.name)

include keepsName

theorem updateTables_sorted (as : List α) {ts : List TableDef} (sorted : Sorted ts) :
    Sorted (updateTables table step ts as) := by
  induction as generalizing ts with
  | nil => exact sorted
  | cons a rest ih => exact ih (updateTable_sorted (keepsName a) sorted)

theorem names_updateTables (as : List α) {ts : List TableDef} {name : String} :
    name ∈ (updateTables table step ts as).map (·.name) ↔
      name ∈ as.map table ∨ name ∈ ts.map (·.name) := by
  induction as generalizing ts with
  | nil => simp [updateTables]
  | cons a rest ih =>
    have first : name ∈ (updateTable (table a) (step a) ts).map (·.name) ↔
        name = table a ∨ name ∈ ts.map (·.name) := names_updateTable (keepsName a) ts
    simp only [updateTables, List.foldl_cons] at ih ⊢
    rw [ih, first, List.map_cons, List.mem_cons, or_left_comm, or_assoc]

/-- Each table is made by the updates of its name, in their order. -/
theorem tableNamed_updateTables (as : List α) {ts : List TableDef} (sorted : Sorted ts)
    (name : String) :
    tableNamed (updateTables table step ts as) name =
      (as.filter (table · == name)).foldl (fun t a => step a t) (tableNamed ts name) := by
  induction as generalizing ts with
  | nil => rfl
  | cons a rest ih =>
    have next : Sorted (updateTable (table a) (step a) ts) :=
      updateTable_sorted (keepsName a) sorted
    have others := ih next
    rw [updateTables] at others ⊢
    rw [List.foldl_cons, others, tableNamed_updateTable (keepsName a) sorted]
    by_cases h : table a = name
    · simp [h]
    · simp [h, Ne.symm h]

end Updates

/-! ### Columns by name -/

/-- Put a column behind the others, unless its name is among theirs. -/
def keepFirst (cs : List ColumnDef) (c : ColumnDef) : List ColumnDef :=
  if cs.any (·.name == c.name) then cs else cs ++ [c]

section KeepFirst

variable {kept cs : List ColumnDef}

theorem keepFirst_distinct (distinct : (kept.map (·.name)).Nodup) (c : ColumnDef) :
    ((keepFirst kept c).map (·.name)).Nodup := by
  rw [keepFirst]
  split
  next => exact distinct
  next fresh =>
    rw [List.map_append, List.nodup_append]
    refine ⟨distinct, by simp, ?_⟩
    rintro _ hold _ hnew rfl
    refine fresh (List.any_eq_true.mpr ?_)
    obtain ⟨d, hd, hname⟩ := List.mem_map.mp hold
    exact ⟨d, hd, by simpa [hname] using hnew⟩

theorem foldl_keepFirst_distinct (distinct : (kept.map (·.name)).Nodup) :
    ((cs.foldl keepFirst kept).map (·.name)).Nodup := by
  induction cs generalizing kept with
  | nil => exact distinct
  | cons c rest ih => exact ih (keepFirst_distinct distinct c)

theorem mem_foldl_keepFirst {c : ColumnDef} (h : c ∈ cs.foldl keepFirst kept) :
    c ∈ kept ∨ c ∈ cs := by
  induction cs generalizing kept with
  | nil => exact .inl h
  | cons d rest ih =>
    rcases ih h with h | h
    · rw [keepFirst] at h
      split at h
      · exact .inl h
      · rcases List.mem_append.mp h with h | h
        · exact .inl h
        · exact .inr (List.mem_cons.mpr (.inl (List.mem_singleton.mp h)))
    · exact .inr (List.mem_cons_of_mem d h)

theorem foldl_keepFirst_keeps {c : ColumnDef} (h : c ∈ kept) : c ∈ cs.foldl keepFirst kept := by
  induction cs generalizing kept with
  | nil => exact h
  | cons d rest ih =>
    refine ih ?_
    rw [keepFirst]
    split
    · exact h
    · exact List.mem_append_left _ h

theorem foldl_keepFirst_has {c : ColumnDef} (h : c ∈ cs) :
    ∃ d ∈ cs.foldl keepFirst kept, d.name = c.name := by
  induction cs generalizing kept with
  | nil => cases h
  | cons b rest ih =>
    rcases List.mem_cons.mp h with rfl | h
    · have first : ∃ d ∈ keepFirst kept c, d.name = c.name := by
        rw [keepFirst]
        split
        next known => simpa using known
        next => exact ⟨c, by simp, rfl⟩
      obtain ⟨d, hd, hname⟩ := first
      rw [List.foldl_cons]
      exact ⟨d, foldl_keepFirst_keeps hd, hname⟩
    · exact ih h

end KeepFirst

namespace TableDef

theorem addColumn_eq (t : TableDef) (c : ColumnDef) :
    t.addColumn c = { t with columns := keepFirst t.columns c } := by
  rw [addColumn, keepFirst]
  split <;> rfl

theorem addColumns_eq (t : TableDef) (cs : List ColumnDef) :
    cs.foldl addColumn t = { t with columns := cs.foldl keepFirst t.columns } := by
  induction cs generalizing t with
  | nil => rfl
  | cons c rest ih => rw [List.foldl_cons, ih, addColumn_eq, List.foldl_cons]

end TableDef

/-! ### The tables of a schema -/

/-- The columns of an entity. -/
def entityColumns (e : Entity) : List ColumnDef :=
  e.attributes.map fun a => ⟨a.name, .ofScalar a.type⟩

/-- The table with the columns and the key of an entity. -/
def TableDef.withEntity (t : TableDef) (e : Entity) : TableDef :=
  (entityColumns e).foldl addColumn { t with primaryKey := some e.primaryKey }

/-- The columns that store a relation, with the tables they stand in. -/
def relationColumns (registry : Registry) (source : Entity) (r : Relation) :
    List (String × ColumnDef) :=
  match registry.entity? r.target with
  | none => []
  | some target =>
    match r.join with
    | .foreignKey column => [(source.table, ⟨column, .ofKey target⟩)]
    | .reverse column => [(target.table, ⟨column, .ofKey source⟩)]
    | .association table sourceColumn targetColumn =>
      [(table, ⟨sourceColumn, .ofKey source⟩), (table, ⟨targetColumn, .ofKey target⟩)]

def joinColumns (registry : Registry) : List (String × ColumnDef) :=
  registry.entities.flatMap fun e => e.relations.flatMap (relationColumns registry e)

theorem addRelation_eq (registry : Registry) (source : Entity) (ts : List TableDef)
    (r : Relation) :
    addRelation registry source ts r =
      updateTables (·.1) (fun c t => t.addColumn c.2) ts (relationColumns registry source r) := by
  simp only [addRelation, relationColumns]
  cases registry.entity? r.target with
  | none => rfl
  | some target => cases r.join <;> rfl

/-- The tables are those of the entities, with the columns of the relations added. -/
theorem tables_eq (registry : Registry) :
    tables registry = updateTables (·.1) (fun c t => t.addColumn c.2)
      (updateTables (·.table) (fun e t => t.withEntity e) [] registry.entities)
      (joinColumns registry) := by
  rw [tables, joinColumns, updateTables, List.foldl_flatMap]
  congr 1
  funext ts e
  rw [List.foldl_flatMap]
  congr 1
  funext ts r
  exact addRelation_eq registry e ts r

/-- The columns that the entities of a table have. -/
def attributeColumns (registry : Registry) (table : String) : List ColumnDef :=
  (registry.entities.filter (·.table == table)).flatMap entityColumns

/-- All columns that are declared for a table, in order, with those that are declared again. -/
def declaredColumns (registry : Registry) (table : String) : List ColumnDef :=
  attributeColumns registry table ++
    ((joinColumns registry).filter (·.1 == table)).map (·.2)

theorem withEntity_name (e : Entity) (t : TableDef) : (t.withEntity e).name = t.name := by
  rw [TableDef.withEntity, TableDef.addColumns_eq]

theorem addColumn_name (c : String × ColumnDef) (t : TableDef) :
    (t.addColumn c.2).name = t.name := by
  rw [TableDef.addColumn_eq]

theorem withEntities_columns (es : List Entity) (t : TableDef) :
    (es.foldl TableDef.withEntity t).columns =
      (es.flatMap entityColumns).foldl keepFirst t.columns := by
  induction es generalizing t with
  | nil => rfl
  | cons e rest ih =>
    rw [List.foldl_cons, ih, TableDef.withEntity, TableDef.addColumns_eq, List.flatMap_cons,
      List.foldl_append]

theorem withEntities_key (es : List Entity) (t : TableDef) :
    (es.foldl TableDef.withEntity t).primaryKey =
      (es.getLast?.map (·.primaryKey)).or t.primaryKey := by
  induction es using List.reverseRecOn with
  | nil => rfl
  | append_singleton es e _ =>
    rw [List.foldl_append, List.foldl_cons, List.foldl_nil, TableDef.withEntity,
      TableDef.addColumns_eq, List.getLast?_concat]
    rfl

section Tables

variable (registry : Registry)

theorem tables_sorted : Sorted (tables registry) := by
  rw [tables_eq]
  exact updateTables_sorted addColumn_name _ (updateTables_sorted withEntity_name _ .nil)

theorem tableNamed_tables (table : String) :
    tableNamed (tables registry) table =
      (((joinColumns registry).filter (·.1 == table)).map (·.2)).foldl TableDef.addColumn
        ((registry.entities.filter (·.table == table)).foldl TableDef.withEntity
          (.empty table)) := by
  rw [tables_eq, tableNamed_updateTables addColumn_name _
    (updateTables_sorted withEntity_name _ .nil), tableNamed_updateTables withEntity_name _ .nil,
    List.foldl_map]
  rfl

/-- A table has the columns that are declared for it, each name once. -/
theorem tableNamed_columns (table : String) :
    (tableNamed (tables registry) table).columns =
      (declaredColumns registry table).foldl keepFirst [] := by
  rw [tableNamed_tables, TableDef.addColumns_eq, withEntities_columns, declaredColumns,
    List.foldl_append]
  rfl

/-- The key of a table is that of the last of its entities. -/
theorem tableNamed_key (table : String) :
    (tableNamed (tables registry) table).primaryKey =
      (registry.entities.filter (·.table == table)).getLast?.map (·.primaryKey) := by
  rw [tableNamed_tables, TableDef.addColumns_eq, withEntities_key]
  exact Option.or_none

theorem names_tables (table : String) :
    table ∈ (tables registry).map (·.name) ↔
      table ∈ registry.entities.map (·.table) ∨ table ∈ (joinColumns registry).map (·.1) := by
  rw [tables_eq, names_updateTables addColumn_name, names_updateTables withEntity_name]
  simp [or_comm]

variable {registry}

theorem columns_of_mem {t : TableDef} (ht : t ∈ tables registry) :
    t.columns = (declaredColumns registry t.name).foldl keepFirst [] := by
  rw [← tableNamed_columns, (tables_sorted registry).tableNamed_eq ht]

theorem key_of_mem {t : TableDef} (ht : t ∈ tables registry) :
    t.primaryKey =
      (registry.entities.filter (·.table == t.name)).getLast?.map (·.primaryKey) := by
  rw [← tableNamed_key, (tables_sorted registry).tableNamed_eq ht]

theorem columns_distinct {t : TableDef} (ht : t ∈ tables registry) :
    (t.columns.map (·.name)).Nodup := by
  rw [columns_of_mem ht]
  exact foldl_keepFirst_distinct .nil

theorem columns_ne_nil (consistent : registry.Consistent) {t : TableDef}
    (ht : t ∈ tables registry) : t.columns ≠ [] := by
  have declared : ∃ c, c ∈ declaredColumns registry t.name := by
    rcases (names_tables registry t.name).mp (List.mem_map_of_mem ht) with h | h
    · obtain ⟨e, he, hname⟩ := List.mem_map.mp h
      obtain ⟨a, ha⟩ := Option.isSome_iff_exists.mp (consistent.sound e he).key
      refine ⟨⟨a.name, .ofScalar a.type⟩, List.mem_append_left _ (List.mem_flatMap.mpr ?_)⟩
      exact ⟨e, by simp [he, hname], List.mem_map.mpr ⟨a, (Entity.attribute?_eq_some ha).1, rfl⟩⟩
    · obtain ⟨c, hc, hname⟩ := List.mem_map.mp h
      refine ⟨c.2, List.mem_append_right _ (List.mem_map_of_mem ?_)⟩
      simp [hc, hname]
  obtain ⟨c, hc⟩ := declared
  rw [columns_of_mem ht]
  obtain ⟨d, hd, -⟩ := foldl_keepFirst_has hc
  exact List.ne_nil_of_mem hd

/-- A column of a table has a place in the schema: it is an attribute of an entity of the table, or
stores a relation there. -/
inductive Stores (registry : Registry) : String → String → Prop
  | attribute {e : Entity} {a : Attribute} : e ∈ registry.entities → a ∈ e.attributes →
      Stores registry e.table a.name
  | join {e target : Entity} {r : Relation} {table column : String} : e ∈ registry.entities →
      r ∈ e.relations → registry.entity? r.target = some target →
      (table, column) ∈ Relation.places e target r → Stores registry table column

theorem relationColumns_places {source target : Entity} {r : Relation}
    (ht : registry.entity? r.target = some target) :
    (relationColumns registry source r).map (fun c => (c.1, c.2.name)) =
      Relation.places source target r := by
  rw [relationColumns, ht, Relation.places]
  cases r.join <;> rfl

theorem mem_joinColumns {c : String × ColumnDef} (h : c ∈ joinColumns registry) :
    ∃ e ∈ registry.entities, ∃ r ∈ e.relations, ∃ target,
      registry.entity? r.target = some target ∧
        (c.1, c.2.name) ∈ Relation.places e target r := by
  obtain ⟨e, he, h⟩ := List.mem_flatMap.mp h
  obtain ⟨r, hr, h⟩ := List.mem_flatMap.mp h
  cases ht : registry.entity? r.target with
  | none => simp [relationColumns, ht] at h
  | some target =>
    exact ⟨e, he, r, hr, target, ht, relationColumns_places ht ▸ List.mem_map_of_mem h⟩

/-- A column that is declared for a table has a place there. -/
theorem stores_of_declared {table : String} {c : ColumnDef}
    (h : c ∈ declaredColumns registry table) : Stores registry table c.name := by
  rcases List.mem_append.mp h with h | h
  · obtain ⟨e, he, hc⟩ := List.mem_flatMap.mp h
    obtain ⟨a, ha, rfl⟩ := List.mem_map.mp hc
    obtain ⟨hmem, htable⟩ := List.mem_filter.mp he
    rw [← beq_iff_eq.mp htable]
    exact .attribute hmem ha
  · obtain ⟨placed, hplaced, rfl⟩ := List.mem_map.mp h
    obtain ⟨hmem, htable⟩ := List.mem_filter.mp hplaced
    obtain ⟨e, he, r, hr, target, ht, hplace⟩ := mem_joinColumns hmem
    rw [← beq_iff_eq.mp htable]
    exact .join he hr ht hplace

/-- The tables declare what the schema stores, and nothing else. -/
theorem declares_iff_stores {table column : String} :
    Declares (tables registry) table column ↔ Stores registry table column := by
  constructor
  · rintro ⟨t, ht, rfl, c, hc, rfl⟩
    rw [columns_of_mem ht] at hc
    rcases mem_foldl_keepFirst hc with hc | hc
    · cases hc
    · exact stores_of_declared hc
  · rintro (⟨he, ha⟩ | ⟨he, hr, ht, hplace⟩)
    · exact tables_declare_attribute he ha
    · exact tables_declare_relation he hr ht _ hplace

/-- The names of the columns that are marked as primary key. -/
def TableDef.marked (t : TableDef) : List String :=
  (t.columns.map (·.name)).filter (t.primaryKey == some ·)

/-- A table marks the column of its key and no other. -/
theorem marked_eq_key (consistent : registry.Consistent) {t : TableDef}
    (ht : t ∈ tables registry) : t.marked = t.primaryKey.toList := by
  cases hkey : t.primaryKey with
  | none => simp [TableDef.marked, hkey]
  | some key =>
    have hlast := key_of_mem ht
    rw [hkey] at hlast
    obtain ⟨e, he, rfl⟩ := Option.map_eq_some_iff.mp hlast.symm
    obtain ⟨hmem, htable⟩ := List.mem_filter.mp (List.mem_of_getLast? he)
    have hcolumn : e.primaryKey ∈ t.columns.map (·.name) := by
      obtain ⟨u, hu, huname, c, hc, hcname⟩ := tables_declare_key hmem consistent
      have : u = t := by
        rw [← (tables_sorted registry).tableNamed_eq hu, huname, beq_iff_eq.mp htable,
          (tables_sorted registry).tableNamed_eq ht]
      exact List.mem_map.mpr ⟨c, this ▸ hc, hcname⟩
    have hmark : ∀ name, (t.primaryKey == some name) = (name == e.primaryKey) := by
      intro name
      rw [hkey, Option.some_beq_some, BEq.comm]
    simp only [TableDef.marked, hmark]
    rw [List.filter_beq, List.count_eq_one_of_mem (columns_distinct ht) hcolumn]
    rfl

/-- Entities that share a table and agree on its key mark the column of the key and no other. -/
theorem marked_of_shared_key (consistent : registry.Consistent) {e : Entity}
    (he : e ∈ registry.entities)
    (shared : ∀ e' ∈ registry.entities, e'.table = e.table → e'.primaryKey = e.primaryKey)
    {t : TableDef} (ht : t ∈ tables registry) (hname : t.name = e.table) :
    t.marked = [e.primaryKey] := by
  have hkey : t.primaryKey = some e.primaryKey := by
    rw [key_of_mem ht, hname]
    have hmem : e ∈ registry.entities.filter (·.table == e.table) := by simp [he]
    obtain ⟨last, hlast⟩ :=
      Option.isSome_iff_exists.mp (List.getLast?_isSome.mpr (List.ne_nil_of_mem hmem))
    obtain ⟨hlast', htable⟩ := List.mem_filter.mp (List.mem_of_getLast? hlast)
    rw [hlast, Option.map_some, shared last hlast' (beq_iff_eq.mp htable)]
  rw [marked_eq_key consistent ht, hkey]
  rfl

/-- Entities that share a table and agree on the types of the attributes they share find all of
these in columns of their types. -/
theorem attribute_column {table : String}
    (agree : ∀ e ∈ registry.entities, e.table = table → ∀ a ∈ e.attributes,
      ∀ e' ∈ registry.entities, e'.table = table → ∀ a' ∈ e'.attributes,
        a.name = a'.name → a.type = a'.type)
    {t : TableDef} (ht : t ∈ tables registry) (hname : t.name = table) {e : Entity}
    (he : e ∈ registry.entities) (htable : e.table = table) {a : Attribute}
    (ha : a ∈ e.attributes) : ⟨a.name, .ofScalar a.type⟩ ∈ t.columns := by
  rw [columns_of_mem ht, declaredColumns, List.foldl_append, hname]
  refine foldl_keepFirst_keeps ?_
  have hc : (⟨a.name, .ofScalar a.type⟩ : ColumnDef) ∈ attributeColumns registry table :=
    List.mem_flatMap.mpr ⟨e, by simp [he, htable], List.mem_map.mpr ⟨a, ha, rfl⟩⟩
  obtain ⟨d, hd, hdname⟩ :
      ∃ d ∈ (attributeColumns registry table).foldl keepFirst [], d.name = a.name :=
    foldl_keepFirst_has hc
  -- the column that was declared first is that of an attribute as well
  rcases mem_foldl_keepFirst hd with hnil | hd'
  · cases hnil
  · obtain ⟨e', he', hd'⟩ := List.mem_flatMap.mp hd'
    obtain ⟨a', ha', rfl⟩ := List.mem_map.mp hd'
    obtain ⟨he', htable'⟩ := List.mem_filter.mp he'
    have htype := agree e he htable a ha e' he' (beq_iff_eq.mp htable') a' ha' hdname.symm
    rw [htype, ← hdname]
    exact hd

end Tables

end FieldSearch.Sql
