import FieldSearch.Proofs.Schema.Consistency
import FieldSearch.Proofs.Sql.Containment
import FieldSearch.Sql.Table

/-!
# Declared columns

Whatever a statement on a schema refers to is declared by the tables of the schema: the attributes
of every entity in its table, and the columns of every relation where the relation is stored.
-/

namespace FieldSearch.Sql

/-- The columns only grow, and the name stays. -/
def Extends (t u : TableDef) : Prop := u.name = t.name ∧ ∀ c ∈ t.columns, c ∈ u.columns

theorem Extends.refl (t : TableDef) : Extends t t := ⟨rfl, fun _ => id⟩

theorem Extends.trans {t u v : TableDef} (h : Extends t u) (h' : Extends u v) : Extends t v :=
  ⟨h'.1.trans h.1, fun c hc => h'.2 c (h.2 c hc)⟩

namespace TableDef

theorem addColumn_extends (t : TableDef) (c : ColumnDef) : Extends t (t.addColumn c) := by
  rw [addColumn]
  split
  · exact .refl t
  · exact ⟨rfl, fun d hd => List.mem_append_left _ hd⟩

theorem addColumn_has (t : TableDef) (c : ColumnDef) :
    ∃ d ∈ (t.addColumn c).columns, d.name = c.name := by
  rw [addColumn]
  split
  next h => simpa using h
  next => exact ⟨c, by simp, rfl⟩

theorem addColumns_extends (t : TableDef) (cs : List ColumnDef) :
    Extends t (cs.foldl addColumn t) := by
  induction cs generalizing t with
  | nil => exact .refl t
  | cons c rest ih => exact (t.addColumn_extends c).trans (ih _)

theorem addColumns_has (t : TableDef) {cs : List ColumnDef} {c : ColumnDef} (hc : c ∈ cs) :
    ∃ d ∈ (cs.foldl addColumn t).columns, d.name = c.name := by
  induction cs generalizing t with
  | nil => cases hc
  | cons b rest ih =>
    rcases List.mem_cons.mp hc with rfl | hc
    · obtain ⟨d, hd, hname⟩ := t.addColumn_has c
      exact ⟨d, (addColumns_extends (t.addColumn c) rest).2 d hd, hname⟩
    · exact ih (t.addColumn b) hc

end TableDef

/-- A table of the list has this column. -/
def Declares (ts : List TableDef) (table column : String) : Prop :=
  ∃ t ∈ ts, t.name = table ∧ ∃ c ∈ t.columns, c.name = column

section UpdateTable

variable {name : String} {f : TableDef → TableDef} (h : ∀ t, Extends t (f t))

include h

theorem updateTable_keeps {ts : List TableDef} {table column : String}
    (declared : Declares ts table column) :
    Declares (updateTable name f ts) table column := by
  obtain ⟨t, ht, hname, c, hc, hcolumn⟩ := declared
  have keeps : ∃ u ∈ updateTable name f ts, Extends t u := by
    induction ts with
    | nil => cases ht
    | cons b rest ih =>
      rw [updateTable]
      split
      · exact ⟨t, List.mem_cons_of_mem _ ht, .refl t⟩
      · split
        · rcases List.mem_cons.mp ht with rfl | ht
          · exact ⟨f t, List.mem_cons_self, h t⟩
          · exact ⟨t, List.mem_cons_of_mem _ ht, .refl t⟩
        · rcases List.mem_cons.mp ht with rfl | ht
          · exact ⟨t, List.mem_cons_self, .refl t⟩
          · obtain ⟨u, hu, grows⟩ := ih ht
            exact ⟨u, List.mem_cons_of_mem _ hu, grows⟩
  obtain ⟨u, hu, hsame, hcolumns⟩ := keeps
  exact ⟨u, hu, hsame.trans hname, c, hcolumns c hc, hcolumn⟩

theorem updateTable_has {column : String} (has : ∀ t, ∃ c ∈ (f t).columns, c.name = column)
    (ts : List TableDef) : Declares (updateTable name f ts) name column := by
  induction ts with
  | nil => exact ⟨f (.empty name), List.mem_cons_self, (h _).1, has _⟩
  | cons t rest ih =>
    rw [updateTable]
    split
    · exact ⟨f (.empty name), List.mem_cons_self, (h _).1, has _⟩
    · split
      next heq => exact ⟨f t, List.mem_cons_self, (h t).1.trans heq, has t⟩
      next =>
        obtain ⟨u, hu, hdeclared⟩ := ih
        exact ⟨u, List.mem_cons_of_mem _ hu, hdeclared⟩

end UpdateTable

theorem addColumn_keeps {ts : List TableDef} {table column name added : String}
    {type : StorageType} (declared : Declares ts table column) :
    Declares (addColumn ts name added type) table column :=
  updateTable_keeps (fun t => t.addColumn_extends _) declared

theorem addColumn_declares (ts : List TableDef) (table column : String) (type : StorageType) :
    Declares (addColumn ts table column type) table column :=
  updateTable_has (fun t => t.addColumn_extends _) (fun t => t.addColumn_has ⟨column, type⟩) ts

theorem withEntity_extends (e : Entity) (t : TableDef) :
    Extends t ((e.attributes.map fun a => ⟨a.name, .ofScalar a.type⟩).foldl TableDef.addColumn
      { t with primaryKey := some e.primaryKey }) := by
  obtain ⟨hname, hcolumns⟩ := TableDef.addColumns_extends
    { t with primaryKey := some e.primaryKey }
    (e.attributes.map fun a => ⟨a.name, .ofScalar a.type⟩)
  exact ⟨hname, hcolumns⟩

theorem addEntity_keeps {ts : List TableDef} {table column : String} (e : Entity)
    (declared : Declares ts table column) : Declares (addEntity ts e) table column :=
  updateTable_keeps (withEntity_extends e) declared

theorem addEntity_declares (ts : List TableDef) {e : Entity} {a : Attribute}
    (ha : a ∈ e.attributes) : Declares (addEntity ts e) e.table a.name := by
  refine updateTable_has (withEntity_extends e) (fun t => ?_) ts
  have hmem : (⟨a.name, .ofScalar a.type⟩ : ColumnDef) ∈
      e.attributes.map fun a => ⟨a.name, .ofScalar a.type⟩ := List.mem_map.mpr ⟨a, ha, rfl⟩
  exact TableDef.addColumns_has _ hmem

/-- The columns that store a relation, with the tables they stand in. -/
def Relation.places (source target : Entity) (r : Relation) : List (String × String) :=
  match r.join with
  | .foreignKey column => [(source.table, column)]
  | .reverse column => [(target.table, column)]
  | .association table sourceColumn targetColumn => [(table, sourceColumn), (table, targetColumn)]

theorem addRelation_keeps {registry : Registry} {ts : List TableDef} {table column : String}
    (source : Entity) (r : Relation) (declared : Declares ts table column) :
    Declares (addRelation registry source ts r) table column := by
  rw [addRelation]
  split
  · exact declared
  · split
    · exact addColumn_keeps declared
    · exact addColumn_keeps declared
    · exact addColumn_keeps (addColumn_keeps declared)

theorem addRelation_declares {registry : Registry} (ts : List TableDef) {source target : Entity}
    {r : Relation} (ht : registry.entity? r.target = some target) :
    ∀ place ∈ Relation.places source target r,
      Declares (addRelation registry source ts r) place.1 place.2 := by
  rw [addRelation, ht, Relation.places]
  cases r.join with
  | foreignKey column => simpa using addColumn_declares _ _ _ _
  | reverse column => simpa using addColumn_declares _ _ _ _
  | association table sourceColumn targetColumn =>
    simpa using ⟨addColumn_keeps (addColumn_declares _ _ _ _), addColumn_declares _ _ _ _⟩

/-- What no step takes away stays declared. -/
theorem foldl_keeps {α : Type} {f : List TableDef → α → List TableDef} {table column : String}
    (keeps : ∀ ts b, Declares ts table column → Declares (f ts b) table column) (as : List α)
    {ts : List TableDef} (h : Declares ts table column) :
    Declares (as.foldl f ts) table column := by
  induction as generalizing ts with
  | nil => exact h
  | cons b rest ih => exact ih (keeps ts b h)

theorem foldl_declares {α : Type} {f : List TableDef → α → List TableDef} {as : List α} {a : α}
    {table column : String} (ha : a ∈ as)
    (keeps : ∀ ts b, Declares ts table column → Declares (f ts b) table column)
    (declares : ∀ ts, Declares (f ts a) table column) (ts : List TableDef) :
    Declares (as.foldl f ts) table column := by
  induction as generalizing ts with
  | nil => cases ha
  | cons b rest ih =>
    rcases List.mem_cons.mp ha with rfl | ha
    · exact foldl_keeps keeps rest (declares ts)
    · exact ih ha _

section Tables

variable {registry : Registry} {e : Entity} (he : e ∈ registry.entities)

include he

theorem tables_declare_attribute {a : Attribute} (ha : a ∈ e.attributes) :
    Declares (tables registry) e.table a.name := by
  refine foldl_keeps (fun ts source h => ?_) _ (foldl_declares he
    (fun ts b h => addEntity_keeps b h) (fun ts => addEntity_declares ts ha) [])
  exact foldl_keeps (fun ts r h => addRelation_keeps source r h) _ h

theorem tables_declare_key (consistent : registry.Consistent) :
    Declares (tables registry) e.table e.primaryKey := by
  obtain ⟨a, ha⟩ := Option.isSome_iff_exists.mp (consistent.sound e he).key
  obtain ⟨hmem, hname⟩ := Entity.attribute?_eq_some ha
  exact hname ▸ tables_declare_attribute he hmem

theorem tables_declare_relation {target : Entity} {r : Relation} (hr : r ∈ e.relations)
    (ht : registry.entity? r.target = some target) :
    ∀ place ∈ Relation.places e target r, Declares (tables registry) place.1 place.2 := by
  intro place hplace
  refine foldl_declares he (fun ts source h => ?_) (fun ts => ?_) _
  · exact foldl_keeps (fun ts r h => addRelation_keeps source r h) _ h
  · exact foldl_declares hr (fun ts r h => addRelation_keeps e r h)
      (fun ts => addRelation_declares ts ht place hplace) ts

end Tables

end FieldSearch.Sql
