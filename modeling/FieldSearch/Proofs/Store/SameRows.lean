import FieldSearch.Proofs.Outcome
import FieldSearch.Proofs.Store.Record
import FieldSearch.Proofs.Sql.Lexing
import Mathlib.Data.List.Perm.Basic

/-!
# Stores with the same rows

Two stores have the same rows if each table has the same columns in both and the same rows, in any
order and under any numbers. What is true of a row is true of it in both. Rows that are inserted in
another order leave a store with the same rows, as long as no key is left to the store to number.
-/

namespace FieldSearch

open Sql

namespace Store

/-- The cells of the rows, in the order of their numbers. -/
def Table.contents (t : Table) : List (List Value) := t.rows.map (·.cells)

structure Table.SameRows (t t' : Table) : Prop where
  definition : t.definition = t'.definition
  contents : t.contents.Perm t'.contents

/-- Every table is in both stores with the same rows, or in none. -/
def SameRows (s s' : Store) : Prop :=
  ∀ name, Option.Rel Table.SameRows (s.table? name) (s'.table? name)

theorem SameRows.refl (s : Store) : s.SameRows s := by
  intro name
  cases s.table? name with
  | none => exact .none
  | some t => exact .some ⟨rfl, .refl _⟩

theorem Table.records_eq_map (t : Table) :
    t.records = t.contents.map fun cells => ⟨t.definition, cells⟩ := by
  rw [contents, List.map_map]
  rfl

section Truth

variable {s s' : Store} (same : s.SameRows s')

include same

theorem SameRows.records (table : String) : (s.records table).Perm (s'.records table) := by
  have htable := same table
  rw [Store.records, Store.records]
  generalize s.table? table = t at htable
  generalize s'.table? table = t' at htable
  cases htable with
  | none => exact .refl _
  | some sameTable =>
    simp only [Option.map_some, Option.getD_some, Table.records_eq_map, sameTable.definition]
    exact sameTable.contents.map _

theorem SameRows.rowsOf (t : TableRef) : (s.rowsOf t).Perm (s'.rowsOf t) := by
  rw [rowsOf_eq, rowsOf_eq]
  exact (same.records t.table).map _

theorem SameRows.related (fs : Frames) (rows : Related) :
    (s.related fs rows).Perm (s'.related fs rows) := by
  refine List.Perm.filter _ ?_
  obtain ⟨source, join, inner, outer⟩ := rows
  cases join with
  | none => exact (same.rowsOf source).map _
  | some join =>
    refine (same.rowsOf source).flatMap fun frame _ => ?_
    exact ((same.rowsOf join.source).map _).filter _

/-- A condition does not look at the order of rows. -/
theorem SameRows.truth (params : List Value) (c : Condition) (fs : Frames) :
    c.truth s params fs = c.truth s' params fs := by
  induction c using Condition.induct generalizing fs with
  | existsWith rows inner ih =>
    have hinner : ∀ gs, inner.truth s params gs = inner.truth s' params gs := ih
    simp only [Condition.truth, hinner, (same.related fs rows).any_eq]
  | existsAny rows => simp only [Condition.truth, (same.related fs rows).isEmpty_eq]
  | existsNone rows => simp only [Condition.truth, (same.related fs rows).isEmpty_eq]
  | not inner ih => simp only [Condition.truth, ih]
  | and parts ih =>
    have hparts := List.map_congr_left fun part hpart => ih part hpart fs
    simp only [Condition.truth, Condition.truths_eq, hparts]
  | or parts ih =>
    have hparts := List.map_congr_left fun part hpart => ih part hpart fs
    simp only [Condition.truth, Condition.truths_eq, hparts]
  | _ => rfl

/-- A condition is true on the same rows of a table in both stores. -/
theorem SameRows.true_rows (table : String) (row : RowName) (params : List Value) (c : Condition) :
    ((s'.records table).filter fun r => c.truth s' params [r.frame row] == some true).Perm
      ((s.records table).filter fun r => c.truth s params [r.frame row] == some true) := by
  simp only [← same.truth]
  exact (same.records table).symm.filter _

end Truth

/-! ### Insertion -/

namespace Table

theorem insertSorted_perm (r : Row) (rows : List Row) : (insertSorted r rows).Perm (r :: rows) := by
  induction rows with
  | nil => exact .refl _
  | cons first rest ih =>
    rw [insertSorted]
    split
    · exact .refl _
    · exact (ih.cons first).trans (.swap r first rest)

/-- The second table is the first with further rows of these cells. -/
structure Gains (t : Table) (added : List (List Value)) (t' : Table) : Prop where
  definition : t'.definition = t.definition
  contents : t'.contents.Perm (added ++ t.contents)

variable {t t' : Table}

theorem addRow_gains {r : Row} (h : t.addRow r = .ok t') : t.Gains [r.cells] t' := by
  rw [addRow] at h
  split at h
  · cases h
  · cases h
    exact ⟨rfl, (insertSorted_perm r t.rows).map Row.cells⟩

/-- A key that is the number of the row is among the values. -/
def Numbers (t : Table) (values : List (String × Value)) : Prop :=
  ∀ index, t.definition.numberIndex? = some index → (t.cellsOf values).getD index .null ≠ .null

theorem cellsOf_congr (same : t.definition = t'.definition) (values : List (String × Value)) :
    t.cellsOf values = t'.cellsOf values := by
  rw [cellsOf, cellsOf, same]

theorem Numbers.congr {values : List (String × Value)} (numbers : t.Numbers values)
    (same : t.definition = t'.definition) : t'.Numbers values := by
  rwa [Numbers, ← same, ← cellsOf_congr same values]

/-- A row gives its number by its key, or the table numbers it. -/
theorem addNumbered_cases {index : Nat} {cells : List Value}
    (h : t.addNumbered index cells = .ok t') :
    (∃ n, cells.getD index .null = .integer n ∧ t.addRow ⟨n.toInt, cells⟩ = .ok t') ∨
      cells.getD index .null = .null ∧ ∃ n, t.nextNumber = .ok n ∧
        t.addRow ⟨n, cells.set index (.integer (Int64.ofInt n))⟩ = .ok t' := by
  cases hkey : cells.getD index .null with
  | null =>
    simp only [addNumbered, hkey] at h
    exact .inr ⟨rfl, bind_eq_ok.mp h⟩
  | integer n =>
    simp only [addNumbered, hkey] at h
    exact .inl ⟨n, rfl, h⟩
  | real x =>
    simp only [addNumbered, hkey] at h
    cases h
  | text s =>
    simp only [addNumbered, hkey] at h
    cases h

/-- The key of a row is its number, or the cells are kept as they are. -/
theorem addCells_cases {cells : List Value} (h : t.addCells cells = .ok t') :
    (∃ index, t.definition.numberIndex? = some index ∧ t.addNumbered index cells = .ok t') ∨
      t.definition.numberIndex? = none ∧ ∃ n, t.nextNumber = .ok n ∧
        t.addRow ⟨n, cells⟩ = .ok t' := by
  rw [addCells] at h
  split at h
  next index hindex => exact .inl ⟨index, hindex, h⟩
  next hnone =>
    refine .inr ⟨hnone, ?_⟩
    split at h
    · split at h
      · cases h
      · exact bind_eq_ok.mp h
    · exact bind_eq_ok.mp h

/-- A row that gives its key is added as it is given. -/
theorem insert_gains {values : List (String × Value)} (numbers : t.Numbers values)
    (h : t.insert values = .ok t') : t.Gains [t.cellsOf values] t' := by
  obtain ⟨-, -, h⟩ := bind_eq_ok.mp h
  rcases addCells_cases h with ⟨index, hindex, h⟩ | ⟨-, n, -, h⟩
  · rcases addNumbered_cases h with ⟨n, -, h⟩ | ⟨hnull, -⟩
    · exact addRow_gains h
    · exact absurd hnull (numbers index hindex)
  · exact addRow_gains h

/-- The cells of the rows that are inserted into the table of this name, if it is this one. -/
def given (t : Table) (table : String) (rows : List (List (String × Value))) :
    List (List Value) :=
  if sameName t.definition.name table then rows.map t.cellsOf else []

theorem given_congr (same : t.definition = t'.definition) (table : String)
    (rows : List (List (String × Value))) : t.given table rows = t'.given table rows := by
  have hcells : t.cellsOf = t'.cellsOf := funext (cellsOf_congr same)
  rw [given, given, same, hcells]

theorem given_perm (t : Table) {rows rows' : List (List (String × Value))}
    (perm : rows.Perm rows') (table : String) :
    (t.given table rows).Perm (t.given table rows') := by
  rw [given, given]
  split
  · exact perm.map _
  · exact .refl _

theorem given_append (t : Table) (table : String) (rows more : List (List (String × Value))) :
    t.given table (rows ++ more) = t.given table rows ++ t.given table more := by
  simp only [given]
  split
  · exact List.map_append
  · rfl

end Table

/-- The second store is the first with these rows in the table of this name. -/
def Gains (s : Store) (table : String) (rows : List (List (String × Value))) (s' : Store) : Prop :=
  ∀ name, Option.Rel (fun t t' => t.Gains (t.given table rows) t') (s.table? name) (s'.table? name)

variable {s s' : Store} {table : String}

theorem Gains.append {rows more : List (List (String × Value))} {mid : Store}
    (first : s.Gains table rows mid) (second : mid.Gains table more s') :
    s.Gains table (rows ++ more) s' := by
  intro name
  have hfirst := first name
  have hsecond := second name
  generalize s.table? name = t at hfirst ⊢
  generalize mid.table? name = u at hfirst hsecond
  generalize s'.table? name = t' at hsecond ⊢
  cases hfirst with
  | none =>
    cases hsecond
    exact .none
  | @some t u hfirst =>
    cases hsecond with
    | @some _ t' hsecond =>
      refine .some ⟨hsecond.definition.trans hfirst.definition, ?_⟩
      have hlater : t'.contents.Perm
          (t.given table more ++ (t.given table rows ++ t.contents)) := by
        rw [← Table.given_congr hfirst.definition]
        exact hsecond.contents.trans (hfirst.contents.append_left _)
      rw [← List.append_assoc] at hlater
      rw [Table.given_append]
      exact hlater.trans (List.perm_append_comm.append_right _)

theorem Gains.refl (s : Store) (table : String) : s.Gains table [] s := by
  intro name
  cases s.table? name with
  | none => exact .none
  | some t =>
    refine .some ⟨rfl, ?_⟩
    rw [Table.given, List.map_nil, ite_self, List.nil_append]

theorem sameName_congr {a b : String} (same : sameName a b = true) (c : String) :
    sameName a c = sameName b c := by
  have hkeys : nameKey a = nameKey b := by simpa [sameName] using same
  rw [sameName, sameName, hkeys]

theorem table?_name {t : Table} (h : s.table? table = some t) :
    sameName t.definition.name table = true := by
  have hsame := List.find?_some h
  exact hsame

theorem table?_congr {a b : String} (same : sameName a b = true) : s.table? a = s.table? b := by
  have hkeys : nameKey a = nameKey b := by simpa [sameName] using same
  simp only [table?, sameName, hkeys]

theorem table?_setTable {t : Table} (hname : sameName t.definition.name table = true)
    (name : String) : (s.setTable table t).table? name =
      (s.table? name).map fun old => if sameName old.definition.name table then t else old := by
  have hfound : ∀ old : Table,
      sameName (if sameName old.definition.name table then t else old).definition.name name =
        sameName old.definition.name name := by
    intro old
    split
    next hold => rw [sameName_congr hname, sameName_congr hold]
    next => rfl
  simp only [table?, setTable, List.find?_map, Function.comp_def, hfound]

/-- The rows give their keys where the keys are the numbers of the rows. -/
def Numbers (s : Store) (table : String) (rows : List (List (String × Value))) : Prop :=
  ∀ t, s.table? table = some t → ∀ values ∈ rows, t.Numbers values

theorem insert_gains {values : List (String × Value)} (numbers : s.Numbers table [values])
    (h : s.insert table values = .ok s') : s.Gains table [values] s' := by
  rw [insert] at h
  split at h
  next => cases h
  next t ht =>
    obtain ⟨t', ht', h⟩ := bind_eq_ok.mp h
    cases h
    have gains := Table.insert_gains (numbers t ht values List.mem_cons_self) ht'
    have hname : sameName t'.definition.name table = true := by
      rw [gains.definition]
      exact table?_name ht
    intro name
    rw [table?_setTable hname]
    cases hold : s.table? name with
    | none => exact .none
    | some old =>
      refine .some ?_
      beta_reduce
      rw [Table.given]
      split
      next hsame =>
        have hold' : s.table? table = some old := by
          rw [← hold, ← table?_congr hsame, table?_congr (table?_name hold)]
        cases ht.symm.trans hold'
        exact gains
      next => exact ⟨rfl, .refl _⟩

theorem Numbers.of_rel {R : Table → Table → Prop}
    (definitions : ∀ t t', R t t' → t.definition = t'.definition)
    (rel : Option.Rel R (s.table? table) (s'.table? table)) {rows : List (List (String × Value))}
    (numbers : s.Numbers table rows) : s'.Numbers table rows := by
  intro t' ht' values hvalues
  rw [ht'] at rel
  generalize ht : s.table? table = found at rel
  cases rel with
  | some h => exact (numbers _ ht values hvalues).congr (definitions _ _ h)

/-- Inserting rows that give their keys adds just these rows to the table. -/
theorem insertAll_gains {rows : List (List (String × Value))} (numbers : s.Numbers table rows)
    (h : s.insertAll table rows = (s', .ok ())) : s.Gains table rows s' := by
  induction rows generalizing s with
  | nil =>
    cases h
    exact Gains.refl _ table
  | cons values rest ih =>
    rw [insertAll] at h
    split at h
    next mid hmid =>
      have hvalues : s.Numbers table [values] := by
        intro t ht v hv
        cases List.mem_singleton.mp hv
        exact numbers t ht values List.mem_cons_self
      have hrest : s.Numbers table rest := fun t ht v hv =>
        numbers t ht v (List.mem_cons_of_mem values hv)
      have first := insert_gains hvalues hmid
      have later : mid.Numbers table rest :=
        hrest.of_rel (fun _ _ gains => gains.definition.symm) (first table)
      exact first.append (ih later h)
    next => cases h

/-- Rows that are inserted in another order leave a store with the same rows. -/
theorem insertAll_sameRows {u u' : Store} {rows rows' : List (List (String × Value))}
    (same : s.SameRows s') (perm : rows.Perm rows') (numbers : s.Numbers table rows)
    (h : s.insertAll table rows = (u, .ok ())) (h' : s'.insertAll table rows' = (u', .ok ())) :
    u.SameRows u' := by
  have numbers' : s'.Numbers table rows :=
    numbers.of_rel (fun _ _ sameTable => sameTable.definition) (same table)
  have gains := insertAll_gains numbers h
  have gains' := insertAll_gains
    (fun t ht values hvalues => numbers' t ht values (perm.mem_iff.mpr hvalues)) h'
  intro name
  have hsame := same name
  have hgains := gains name
  have hgains' := gains' name
  generalize s.table? name = t at hsame hgains
  generalize s'.table? name = t' at hsame hgains'
  generalize u.table? name = v at hgains ⊢
  generalize u'.table? name = v' at hgains' ⊢
  cases hsame with
  | none =>
    cases hgains
    cases hgains'
    exact .none
  | @some t t' hsame =>
    cases hgains with
    | @some _ v hgains =>
      cases hgains' with
      | @some _ v' hgains' =>
        have hdefinition : v.definition = v'.definition :=
          hgains.definition.trans (hsame.definition.trans hgains'.definition.symm)
        have hadded : (t.given table rows ++ t.contents).Perm
            (t'.given table rows' ++ t'.contents) := by
          rw [Table.given_congr hsame.definition]
          exact (t'.given_perm perm table).append hsame.contents
        exact .some ⟨hdefinition, hgains.contents.trans (hadded.trans hgains'.contents.symm)⟩

end Store

end FieldSearch
