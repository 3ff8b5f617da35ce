import FieldSearch.Proofs.Sql.Declared
import FieldSearch.Proofs.Store.Record

/-!
# Stores of a schema

A store over the tables of a schema has all that a statement on the schema refers to, and so does
one that has more than that. The names of the schema hold no NUL, or its tables could not have been
created.
-/

namespace FieldSearch

open Sql

/-- The value is a text, if there is one. -/
def Sql.Value.isTextOrNull : Value → Bool
  | null => true
  | text _ => true
  | _ => false

/-- The store is over the tables of a schema, which can be created, and has texts where attributes
are strings. Its rows are arbitrary otherwise. -/
structure Store.Hosts (s : Store) (registry : Registry) : Prop where
  created : (Store.empty.createSchema registry).2 = .ok ()
  tables : ∀ d ∈ Sql.tables registry, (s.table? d.name).map (·.definition) = some d
  strings : ∀ e ∈ registry.entities, ∀ a ∈ e.attributes, a.type = .string →
    ∀ r ∈ s.records e.table, (r.value a.name).isTextOrNull = true

namespace Store

/-- The names of the table and of its columns hold no NUL, as in every table that can be created. -/
def Table.Legible (t : Table) : Prop :=
  '\x00' ∉ t.definition.name.toList ∧ ∀ c ∈ t.definition.columns, '\x00' ∉ c.name.toList

instance (t : Table) : Decidable t.Legible := inferInstanceAs (Decidable (_ ∧ _))

/-- The store has every table of the schema, with every column of it. It may have further columns
and tables, and types and keys of its own. -/
def Carries (s : Store) (registry : Registry) : Prop :=
  ∀ d ∈ Sql.tables registry, ∃ t ∈ s.table? d.name,
    t.Legible ∧ ∀ c ∈ d.columns, (t.definition.columnIndex? c.name).isSome

instance (s : Store) (registry : Registry) : Decidable (s.Carries registry) :=
  inferInstanceAs (Decidable (∀ d ∈ Sql.tables registry, _))

/-- Whatever the store holds where attributes are strings is text. -/
def HasTexts (s : Store) (registry : Registry) : Prop :=
  ∀ e ∈ registry.entities, ∀ a ∈ e.attributes, a.type = .string →
    ∀ r ∈ s.records e.table, (r.value a.name).isTextOrNull = true

instance (s : Store) (registry : Registry) : Decidable (s.HasTexts registry) :=
  inferInstanceAs (Decidable (∀ e ∈ registry.entities, _))

variable {s : Store} {registry : Registry}

/-! ### No NUL in a name -/

theorem createAll_legible {s : Store} {ds : List TableDef} (h : (s.createAll ds).2 = .ok ()) :
    ∀ d ∈ ds, hasNul d.createText = false := by
  induction ds generalizing s with
  | nil => simp
  | cons d rest ih =>
    rw [createAll] at h
    split at h
    next next hcreate =>
      rw [List.forall_mem_cons]
      refine ⟨?_, ih h⟩
      rw [create] at hcreate
      split at hcreate
      next => cases hcreate
      next hnul => simpa using hnul
    next => cases h

theorem hasNul_eq_false {text : String} : hasNul text = false ↔ '\x00' ∉ text.toList := by
  simp [hasNul]

theorem mem_quoteIdentifier {name : String} {c : Char} (h : c ∈ name.toList) :
    c ∈ (quoteIdentifier name).toList := by
  simp only [quoteIdentifier, quoteChars, String.toList_ofList, List.cons_append, List.mem_cons,
    List.mem_append, List.mem_flatMap]
  refine .inr (.inl ⟨c, h, ?_⟩)
  split <;> simp_all

theorem mem_append_left {a b : String} {c : Char} (h : c ∈ a.toList) : c ∈ (a ++ b).toList := by
  rw [String.toList_append]
  exact List.mem_append_left _ h

theorem mem_append_right {a b : String} {c : Char} (h : c ∈ b.toList) : c ∈ (a ++ b).toList := by
  rw [String.toList_append]
  exact List.mem_append_right _ h

theorem mem_intercalate {separator text : String} {texts : List String} (ht : text ∈ texts)
    {c : Char} (h : c ∈ text.toList) : c ∈ (separator.intercalate texts).toList := by
  induction texts with
  | nil => cases ht
  | cons first rest ih =>
    cases rest with
    | nil =>
      obtain rfl := List.mem_singleton.mp ht
      simpa using h
    | cons second others =>
      rw [String.intercalate_cons_cons]
      rcases List.mem_cons.mp ht with rfl | ht
      · exact mem_append_left (mem_append_left h)
      · exact mem_append_right (ih ht)

/-- The names of a table and of its columns stand in the statement that creates it. -/
theorem mem_createText {d : TableDef} {name : String}
    (hname : d.name = name ∨ ∃ c ∈ d.columns, c.name = name) {c : Char} (h : c ∈ name.toList) :
    c ∈ d.createText.toList := by
  have hquoted := mem_quoteIdentifier h
  rcases hname with rfl | ⟨column, hcolumn, rfl⟩
  · exact mem_append_left (mem_append_left (mem_append_left (mem_append_right hquoted)))
  · have hmem : c ∈ (d.columnText column).toList :=
      mem_append_left (mem_append_left (mem_append_left hquoted))
    exact mem_append_left (mem_append_right (mem_intercalate (List.mem_map_of_mem hcolumn) hmem))

theorem table_legible {t : Table} (h : hasNul t.definition.createText = false) : t.Legible := by
  have hnul := hasNul_eq_false.mp h
  constructor
  · intro hname
    exact hnul (mem_createText (.inl rfl) hname)
  · intro c hc hname
    exact hnul (mem_createText (.inr ⟨c, hc, rfl⟩) hname)

theorem Hosts.carries (hosts : s.Hosts registry) : s.Carries registry := by
  intro d hd
  obtain ⟨t, ht, rfl⟩ := Option.map_eq_some_iff.mp (hosts.tables d hd)
  refine ⟨t, ht, table_legible (createAll_legible hosts.created _ hd), fun c hc => ?_⟩
  rw [TableDef.columnIndex?, List.findIdx?_isSome, List.any_eq_true]
  exact ⟨c, hc, by simp [sameName]⟩

theorem Hosts.hasTexts (hosts : s.Hosts registry) : s.HasTexts registry := hosts.strings

theorem toLower_eq_nul {c : Char} : c.toLower = '\x00' ↔ c = '\x00' := by
  constructor
  · intro h
    by_cases upper : c.val ≥ 'A'.val ∧ c.val ≤ 'Z'.val
    · have hlower : c.toLower.val = c.val + ('a'.val - 'A'.val) := congrArg Char.val (dif_pos upper)
      have hbounds : 65 ≤ c.val.toNat ∧ c.val.toNat ≤ 90 :=
        ⟨UInt32.le_iff_toNat_le.mp upper.1, UInt32.le_iff_toNat_le.mp upper.2⟩
      have hval := congrArg UInt32.toNat hlower
      rw [h, UInt32.toNat_add] at hval
      change 0 = (c.val.toNat + 32) % 2 ^ 32 at hval
      omega
    · have hlower : c.toLower = c := dif_neg upper
      exact hlower.symm.trans h
  · rintro rfl
    rfl

/-- Names that differ by case hold a NUL alike. -/
theorem nul_mem_of_sameName {a b : String} (same : sameName a b = true)
    (h : '\x00' ∈ b.toList) : '\x00' ∈ a.toList := by
  have hkeys : nameKey a = nameKey b := by simpa [sameName] using same
  have hkey : '\x00' ∈ nameKey b := List.mem_map.mpr ⟨_, h, rfl⟩
  rw [← hkeys] at hkey
  obtain ⟨c, hc, hlower⟩ := List.mem_map.mp hkey
  rwa [toLower_eq_nul.mp hlower] at hc

theorem Carries.declared_legible (carries : s.Carries registry) {table column name : String}
    (declared : Declares (Sql.tables registry) table column)
    (hname : name = table ∨ name = column) : '\x00' ∉ name.toList := by
  obtain ⟨d, hd, rfl, c, hc, rfl⟩ := declared
  obtain ⟨t, ht, ⟨htable, hcolumns⟩, hhas⟩ := carries d hd
  intro hnul
  rcases hname with rfl | rfl
  · have same := List.find?_some ht
    exact htable (nul_mem_of_sameName same hnul)
  · have hcolumn := hhas c hc
    rw [TableDef.columnIndex?, List.findIdx?_isSome, List.any_eq_true] at hcolumn
    obtain ⟨c', hc', same⟩ := hcolumn
    exact hcolumns c' hc' (nul_mem_of_sameName same hnul)

/-- No name of the schema holds a NUL. -/
theorem Carries.names_legible (carries : s.Carries registry) (consistent : registry.Consistent) :
    ∀ name ∈ registry.names, '\x00' ∉ name.toList := by
  intro name hname
  obtain ⟨e, he, hname⟩ := List.mem_flatMap.mp hname
  rcases List.mem_cons.mp hname with rfl | hname
  · exact carries.declared_legible (tables_declare_key he consistent) (.inl rfl)
  · rcases List.mem_append.mp hname with hname | hname
    · obtain ⟨a, ha, rfl⟩ := List.mem_map.mp hname
      exact carries.declared_legible (tables_declare_attribute he ha) (.inr rfl)
    · obtain ⟨r, hr, hname⟩ := List.mem_flatMap.mp hname
      obtain ⟨target, -, ht⟩ := consistent.target? he hr
      have hplaces := tables_declare_relation he hr ht
      cases hj : r.join with
      | foreignKey column =>
        simp only [Relation.places, hj, List.forall_mem_singleton] at hplaces
        simp only [hj, JoinKey.names, List.mem_singleton] at hname
        exact carries.declared_legible hplaces (.inr hname)
      | reverse column =>
        simp only [Relation.places, hj, List.forall_mem_singleton] at hplaces
        simp only [hj, JoinKey.names, List.mem_singleton] at hname
        exact carries.declared_legible hplaces (.inr hname)
      | association table sourceColumn targetColumn =>
        simp only [Relation.places, hj, List.forall_mem_cons] at hplaces
        simp only [hj, JoinKey.names, List.mem_cons, List.not_mem_nil, or_false] at hname
        rcases hname with hname | hname | hname
        · exact carries.declared_legible hplaces.1 (.inl hname)
        · exact carries.declared_legible hplaces.1 (.inr hname)
        · exact carries.declared_legible hplaces.2.1 (.inr hname)

/-- The text of a statement that holds only names of the schema holds no NUL. -/
theorem Carries.text_legible (carries : s.Carries registry) (consistent : registry.Consistent)
    {q : Select} (contained : Contained registry.names q.tokens) : hasNul q.text = false := by
  rw [hasNul_eq_false]
  intro hnul
  obtain ⟨name, hname, hmem⟩ := Token.nul_quoted q.reads hnul
  cases contained _ hname with
  | name hname => exact carries.names_legible consistent name hname hmem

end Store

end FieldSearch
