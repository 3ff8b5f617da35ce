import FieldSearch.Proofs.Store.SameRows

/-!
# Keys that are row numbers

A primary key of integers is the number of its row. Whatever is inserted, and wherever the store
refuses a row, each such key that is in a table is an integer.
-/

namespace FieldSearch

open Sql

def Sql.Value.isInteger : Value → Bool
  | integer _ => true
  | _ => false

theorem Sql.Value.isInteger_iff {v : Value} : v.isInteger = true ↔ ∃ n, v = integer n := by
  cases v <;> simp [isInteger]

namespace Store

namespace Table

/-- Each key that is the number of its row is an integer. -/
def HasNumbers (t : Table) : Prop :=
  ∀ index ∈ t.definition.numberIndex?, ∀ r ∈ t.rows, (r.cell index).isInteger = true

instance (t : Table) : Decidable t.HasNumbers :=
  inferInstanceAs (Decidable (∀ index ∈ t.definition.numberIndex?, _))

variable {t t' : Table}

theorem numberIndex?_lt {d : TableDef} {index : Nat} (h : d.numberIndex? = some index) :
    index < d.columns.length := by
  obtain ⟨hkey, -⟩ := Option.filter_eq_some_iff.mp h
  obtain ⟨key, -, hfind⟩ := Option.bind_eq_some_iff.mp hkey
  exact (List.findIdx?_eq_some_iff_getElem.mp hfind).1

theorem HasNumbers.addRow (h : t.HasNumbers) {r : Row}
    (numbered : ∀ index ∈ t.definition.numberIndex?, (r.cell index).isInteger = true)
    (hadd : t.addRow r = .ok t') : t'.HasNumbers ∧ t'.definition = t.definition := by
  rw [Table.addRow] at hadd
  split at hadd
  · cases hadd
  · cases hadd
    refine ⟨fun index hindex other hother => ?_, rfl⟩
    rcases List.mem_cons.mp ((insertSorted_perm r t.rows).mem_iff.mp hother) with rfl | hother
    · exact numbered index hindex
    · exact h index hindex other hother

theorem HasNumbers.addNumbered (h : t.HasNumbers) {index : Nat} {cells : List Value}
    (hindex : t.definition.numberIndex? = some index) (inside : index < cells.length)
    (hadd : t.addNumbered index cells = .ok t') :
    t'.HasNumbers ∧ t'.definition = t.definition := by
  rcases addNumbered_cases hadd with ⟨n, hkey, hadd⟩ | ⟨-, n, -, hadd⟩
  · refine h.addRow (fun index' hindex' => ?_) hadd
    cases hindex.symm.trans hindex'
    exact Value.isInteger_iff.mpr ⟨n, hkey⟩
  · refine h.addRow (fun index' hindex' => ?_) hadd
    cases hindex.symm.trans hindex'
    exact Value.isInteger_iff.mpr ⟨Int64.ofInt n, by simp [Row.cell, inside]⟩

/-- Inserting a row keeps the keys integers. -/
theorem HasNumbers.insert (h : t.HasNumbers) {values : List (String × Value)}
    (hinsert : t.insert values = .ok t') : t'.HasNumbers ∧ t'.definition = t.definition := by
  obtain ⟨-, -, hinsert⟩ := bind_eq_ok.mp hinsert
  rcases addCells_cases hinsert with ⟨index, hindex, hadd⟩ | ⟨hnone, n, -, hadd⟩
  · have hlength : (t.cellsOf values).length = t.definition.columns.length := by simp [cellsOf]
    exact h.addNumbered hindex (hlength ▸ numberIndex?_lt hindex) hadd
  · refine h.addRow (fun index hindex => ?_) hadd
    cases hnone.symm.trans hindex

end Table

/-- Each key in the store that is the number of its row is an integer. -/
def HasNumbers (s : Store) : Prop := ∀ t ∈ s.tables, t.HasNumbers

instance (s : Store) : Decidable s.HasNumbers :=
  inferInstanceAs (Decidable (∀ t ∈ s.tables, t.HasNumbers))

variable {s s' : Store}

theorem HasNumbers.create (h : s.HasNumbers) {d : TableDef} (hcreate : s.create d = .ok s') :
    s'.HasNumbers := by
  rw [Store.create] at hcreate
  split at hcreate
  · cases hcreate
  · split at hcreate
    · cases hcreate
    · split at hcreate
      · cases hcreate
        exact h
      · split at hcreate
        · cases hcreate
        · cases hcreate
          rw [HasNumbers, List.forall_mem_append]
          refine ⟨h, List.forall_mem_singleton.mpr ?_⟩
          intro index _ r hr
          cases hr

theorem HasNumbers.createAll (h : s.HasNumbers) (ds : List TableDef) :
    (s.createAll ds).1.HasNumbers := by
  induction ds generalizing s with
  | nil => exact h
  | cons d rest ih =>
    rw [Store.createAll]
    split
    next hcreate => exact ih (h.create hcreate)
    next => exact h

theorem HasNumbers.insert (h : s.HasNumbers) {table : String} {values : List (String × Value)}
    (hinsert : s.insert table values = .ok s') : s'.HasNumbers := by
  rw [Store.insert] at hinsert
  split at hinsert
  next => cases hinsert
  next t ht =>
    obtain ⟨t', ht', hinsert⟩ := bind_eq_ok.mp hinsert
    cases hinsert
    have hnew := (h t (List.mem_of_find?_eq_some ht)).insert ht'
    intro u hu
    obtain ⟨old, hold, rfl⟩ := List.mem_map.mp hu
    split
    · exact hnew.1
    · exact h old hold

theorem HasNumbers.insertAll (h : s.HasNumbers) (table : String)
    (rows : List (List (String × Value))) : (s.insertAll table rows).1.HasNumbers := by
  induction rows generalizing s with
  | nil => exact h
  | cons values rest ih =>
    rw [Store.insertAll]
    split
    next hinsert => exact ih (h.insert hinsert)
    next => exact h

/-- A store as its creation and insertions leave it, whether they succeed or not. -/
inductive Filled : Store → Prop
  | empty : Filled .empty
  | create {s : Store} : Filled s → ∀ ds, Filled (s.createAll ds).1
  | insert {s : Store} : Filled s → ∀ table rows, Filled (s.insertAll table rows).1

/-- However a store has been filled, its keys that are row numbers are integers. -/
theorem Filled.hasNumbers (filled : s.Filled) : s.HasNumbers := by
  induction filled with
  | empty =>
    intro t ht
    cases ht
  | create _ ds ih => exact ih.createAll ds
  | insert _ table rows ih => exact ih.insertAll table rows

end Store

end FieldSearch
