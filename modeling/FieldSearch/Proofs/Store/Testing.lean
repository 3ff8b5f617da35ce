import FieldSearch.Proofs.Outcome
import FieldSearch.Proofs.Sql.Lexing
import FieldSearch.Proofs.Store.Record
import FieldSearch.Store.Select

/-!
# Testing rows

A test that does not fail tells the truth value of its condition, in whatever order the parts are
tested, and no test fails as long as no comparison does. A statement that succeeds returns its
column of exactly the rows on which its condition is true.
-/

namespace FieldSearch

open Sql

/-- A search that does not fail finds out whether some element has the property. -/
theorem anyM_sound {ε α : Type} {f : α → Except ε Bool} {p : α → Bool} {as : List α}
    (each : ∀ a ∈ as, ∀ b, f a = .ok b → b = p a) {b : Bool} (h : as.anyM f = .ok b) :
    b = as.any p := by
  induction as with
  | nil =>
    cases h
    rfl
  | cons a rest ih =>
    rw [List.forall_mem_cons] at each
    rw [List.anyM_cons] at h
    obtain ⟨found, hfound, h⟩ := bind_eq_ok.mp h
    rw [List.any_cons, ← each.1 found hfound]
    cases found with
    | false => exact ih each.2 h
    | true =>
      cases h
      rfl

theorem exists_anyM_eq_ok {ε α : Type} {f : α → Except ε Bool} {as : List α}
    (each : ∀ a ∈ as, ∃ b, f a = .ok b) : ∃ b, as.anyM f = .ok b := by
  induction as with
  | nil => exact ⟨false, rfl⟩
  | cons a rest ih =>
    rw [List.forall_mem_cons] at each
    obtain ⟨found, hfound⟩ := each.1
    rw [List.anyM_cons, hfound]
    cases found with
    | false => exact ih each.2
    | true => exact ⟨true, rfl⟩

namespace Sql.Condition

variable {s : Store} {params : List Value} {fs : Store.Frames}

mutual

/-- No comparison that the condition makes fails. -/
def Quiet (s : Store) (params : List Value) (fs : Store.Frames) : Condition → Prop
  | compare c comparison n => ∃ t, Store.comparison params fs c comparison n = .ok t
  | isIn _ _ => True
  | isNull _ => True
  | isNotNull _ => True
  | existsWith rows inner => ∀ gs ∈ s.related fs rows, inner.Quiet s params gs
  | existsAny _ => True
  | existsNone _ => True
  | not inner => inner.Quiet s params fs
  | and parts => AllQuiet s params fs parts
  | or parts => AllQuiet s params fs parts

def AllQuiet (s : Store) (params : List Value) (fs : Store.Frames) : List Condition → Prop
  | [] => True
  | part :: rest => part.Quiet s params fs ∧ AllQuiet s params fs rest

end

@[simp]
theorem allQuiet_iff {parts : List Condition} :
    AllQuiet s params fs parts ↔ ∀ part ∈ parts, part.Quiet s params fs := by
  induction parts with
  | nil => simp [AllQuiet]
  | cons part rest ih => rw [AllQuiet, ih, List.forall_mem_cons]

theorem allQuiet_of_forall₂ {parts : List Predicate} {cs : List Condition}
    (h : List.Forall₂ (fun _ c => c.Quiet s params fs) parts cs) : AllQuiet s params fs cs := by
  induction h with
  | nil => trivial
  | cons hc _ ih => exact ⟨hc, ih⟩

/-! ### A test tells the truth -/

/-- Whatever a test of the condition comes out as is told by its truth value. -/
def Told (s : Store) (params : List Value) (wanted : Bool) (fs : Store.Frames) (c : Condition) :
    Prop :=
  ∀ b, c.evalsTo s params wanted fs = .ok b → b = (c.truth s params fs == some wanted)

theorem everyEvalsTo_sound {parts : List Condition} {wanted b : Bool}
    (each : ∀ part ∈ parts, part.Told s params wanted fs)
    (h : everyEvalsTo s params wanted fs parts = .ok b) :
    b = parts.all fun part => part.truth s params fs == some wanted := by
  induction parts with
  | nil =>
    cases h
    rfl
  | cons part rest ih =>
    rw [List.forall_mem_cons] at each
    rw [everyEvalsTo] at h
    obtain ⟨found, hfound, h⟩ := bind_eq_ok.mp h
    rw [List.all_cons, ← each.1 found hfound]
    cases found with
    | false =>
      cases h
      rfl
    | true => exact ih each.2 h

theorem someEvalsTo_sound {parts : List Condition} {wanted b : Bool}
    (each : ∀ part ∈ parts, part.Told s params wanted fs)
    (h : someEvalsTo s params wanted fs parts = .ok b) :
    b = parts.any fun part => part.truth s params fs == some wanted := by
  induction parts with
  | nil =>
    cases h
    rfl
  | cons part rest ih =>
    rw [List.forall_mem_cons] at each
    rw [someEvalsTo] at h
    obtain ⟨found, hfound, h⟩ := bind_eq_ok.mp h
    rw [List.any_cons, ← each.1 found hfound]
    cases found with
    | false => exact ih each.2 h
    | true =>
      cases h
      rfl

theorem all_beq_true (parts : List Condition) :
    (parts.all fun part => part.truth s params fs == some true) =
      ((and parts).truth s params fs == some true) := by
  rw [Bool.eq_iff_iff, beq_iff_eq, truth, Truth.all_eq_true]
  simp

theorem any_beq_false (parts : List Condition) :
    (parts.any fun part => part.truth s params fs == some false) =
      ((and parts).truth s params fs == some false) := by
  rw [Bool.eq_iff_iff, beq_iff_eq, truth, Truth.all_eq_false]
  simp

theorem any_beq_true (parts : List Condition) :
    (parts.any fun part => part.truth s params fs == some true) =
      ((or parts).truth s params fs == some true) := by
  rw [Bool.eq_iff_iff, beq_iff_eq, truth, Truth.any_eq_true]
  simp

theorem all_beq_false (parts : List Condition) :
    (parts.all fun part => part.truth s params fs == some false) =
      ((or parts).truth s params fs == some false) := by
  rw [Bool.eq_iff_iff, beq_iff_eq, truth, Truth.any_eq_false]
  simp

/-- A condition comes out as wanted just if that is its truth value, unless the test fails. -/
theorem evalsTo_sound (c : Condition) (wanted : Bool) : c.Told s params wanted fs := by
  induction c using Condition.induct generalizing wanted fs with
  | compare column comparison n =>
    intro b h
    obtain ⟨t, ht, rfl⟩ := map_eq_ok.mp h
    have htruth : (compare column comparison n).truth s params fs = t := by
      simp only [Store.comparison] at ht
      simp only [truth, Value.compareTruth, ht]
    rw [htruth]
  | isIn column ns =>
    intro b h
    cases h
    rw [truth, Value.memberTruth, List.map_map]
    rfl
  | isNull column =>
    intro b h
    cases h
    rfl
  | isNotNull column =>
    intro b h
    cases h
    rw [truth, Store.Frames.value]
    cases (fs.column column).2.isNull <;> cases wanted <;> rfl
  | existsWith rows inner ih =>
    intro b h
    obtain ⟨found, hfound, rfl⟩ := map_eq_ok.mp h
    rw [anyM_sound (fun gs _ => ih true) hfound, truth]
    rfl
  | existsAny rows =>
    intro b h
    cases h
    rw [truth]
    cases (s.related fs rows).isEmpty <;> cases wanted <;> rfl
  | existsNone rows =>
    intro b h
    cases h
    rfl
  | not inner ih =>
    intro b h
    have hinner := ih (!wanted) b h
    have hnot : (inner.truth s params fs == some !wanted) =
        ((not inner).truth s params fs == some wanted) := by
      rw [Bool.eq_iff_iff, beq_iff_eq, beq_iff_eq, truth, Truth.not_eq]
    rw [hinner, hnot]
  | and parts ih =>
    intro b h
    rw [evalsTo] at h
    cases wanted with
    | true =>
      rw [if_pos rfl] at h
      rw [everyEvalsTo_sound (fun part hpart => ih part hpart true) h, all_beq_true]
    | false =>
      rw [if_neg Bool.false_ne_true] at h
      rw [someEvalsTo_sound (fun part hpart => ih part hpart false) h, any_beq_false]
  | or parts ih =>
    intro b h
    rw [evalsTo] at h
    cases wanted with
    | true =>
      rw [if_pos rfl] at h
      rw [someEvalsTo_sound (fun part hpart => ih part hpart true) h, any_beq_true]
    | false =>
      rw [if_neg Bool.false_ne_true] at h
      rw [everyEvalsTo_sound (fun part hpart => ih part hpart false) h, all_beq_false]

/-! ### A quiet condition can be tested -/

theorem exists_everyEvalsTo {parts : List Condition} {wanted : Bool}
    (each : ∀ part ∈ parts, ∃ b, part.evalsTo s params wanted fs = .ok b) :
    ∃ b, everyEvalsTo s params wanted fs parts = .ok b := by
  induction parts with
  | nil => exact ⟨true, rfl⟩
  | cons part rest ih =>
    rw [List.forall_mem_cons] at each
    obtain ⟨found, hfound⟩ := each.1
    rw [everyEvalsTo, hfound]
    cases found with
    | false => exact ⟨false, rfl⟩
    | true => exact ih each.2

theorem exists_someEvalsTo {parts : List Condition} {wanted : Bool}
    (each : ∀ part ∈ parts, ∃ b, part.evalsTo s params wanted fs = .ok b) :
    ∃ b, someEvalsTo s params wanted fs parts = .ok b := by
  induction parts with
  | nil => exact ⟨false, rfl⟩
  | cons part rest ih =>
    rw [List.forall_mem_cons] at each
    obtain ⟨found, hfound⟩ := each.1
    rw [someEvalsTo, hfound]
    cases found with
    | false => exact ih each.2
    | true => exact ⟨true, rfl⟩

theorem exists_evalsTo (c : Condition) (wanted : Bool) (quiet : c.Quiet s params fs) :
    ∃ b, c.evalsTo s params wanted fs = .ok b := by
  induction c using Condition.induct generalizing wanted fs with
  | compare column comparison n =>
    obtain ⟨t, ht⟩ := quiet
    exact ⟨t == some wanted, by rw [evalsTo, ht]; rfl⟩
  | existsWith rows inner ih =>
    obtain ⟨found, hfound⟩ := exists_anyM_eq_ok fun gs hgs => ih true (quiet gs hgs)
    exact ⟨found == wanted, by rw [evalsTo, hfound]; rfl⟩
  | not inner ih => exact ih (!wanted) quiet
  | and parts ih =>
    have each := allQuiet_iff.mp quiet
    rw [evalsTo]
    cases wanted with
    | true => exact exists_everyEvalsTo fun part h => ih part h true (each part h)
    | false => exact exists_someEvalsTo fun part h => ih part h false (each part h)
  | or parts ih =>
    have each := allQuiet_iff.mp quiet
    rw [evalsTo]
    cases wanted with
    | true => exact exists_someEvalsTo fun part h => ih part h true (each part h)
    | false => exact exists_everyEvalsTo fun part h => ih part h false (each part h)
  | _ => exact ⟨_, rfl⟩

/-! ### Conjuncts -/

@[simp]
theorem allConjuncts_eq (parts : List Condition) :
    allConjuncts parts = parts.flatMap conjuncts := by
  induction parts with
  | nil => rfl
  | cons part rest ih => rw [allConjuncts, ih, List.flatMap_cons]

/-- A condition is true just if all its conjuncts are. -/
theorem conjuncts_true (c : Condition) :
    (c.conjuncts.all fun part => part.truth s params fs == some true) =
      (c.truth s params fs == some true) := by
  induction c using Condition.induct with
  | and parts ih =>
    rw [conjuncts, allConjuncts_eq, List.all_flatMap, ← all_beq_true]
    rw [Bool.eq_iff_iff, List.all_eq_true, List.all_eq_true]
    exact forall₂_congr fun part hpart => by rw [ih part hpart]
  | _ => simp [conjuncts]

theorem conjuncts_quiet {c : Condition} (quiet : c.Quiet s params fs) :
    ∀ part ∈ c.conjuncts, part.Quiet s params fs := by
  induction c using Condition.induct with
  | and parts ih =>
    have each := allQuiet_iff.mp quiet
    rw [conjuncts, allConjuncts_eq]
    intro part hpart
    obtain ⟨of, hof, hpart⟩ := List.mem_flatMap.mp hpart
    exact ih of hof (each of hof) part hpart
  | _ => simpa [conjuncts] using quiet

theorem arranged_perm (params : List Value) (isKey : ColumnName → Bool) (c : Condition) :
    (c.arranged params isKey).Perm c.conjuncts := by
  simp only [arranged, List.partition_eq_filter_filter, List.append_assoc]
  have hothers := List.perm_append_comm.trans (List.filter_append_perm looksElsewhere
    (c.conjuncts.filter (!·.isByKey params isKey)))
  exact (hothers.append_left _).trans (List.filter_append_perm _ _)

theorem arranged_true (isKey : ColumnName → Bool) (c : Condition) :
    ((c.arranged params isKey).all fun part => part.truth s params fs == some true) =
      (c.truth s params fs == some true) := by
  rw [(arranged_perm params isKey c).all_eq, conjuncts_true]

end Sql.Condition

namespace Store

variable {s : Store} {params : List Value}

theorem filter_cons_eq_ok {conditions : List Condition} {fs : Frames} {rest found : List Frames} :
    s.filter params conditions (fs :: rest) = .ok found ↔
      ∃ b others, Condition.everyEvalsTo s params true fs conditions = .ok b ∧
        s.filter params conditions rest = .ok others ∧
        (if b then fs :: others else others) = found := by
  simp only [filter, bind_eq_ok, pure, Except.pure, Except.ok.injEq, exists_and_left]

/-- The rows that are found are those on which all conditions are true. -/
theorem filter_sound {conditions : List Condition} {rows found : List Frames}
    (h : s.filter params conditions rows = .ok found) :
    found = rows.filter fun fs => conditions.all fun c => c.truth s params fs == some true := by
  induction rows generalizing found with
  | nil =>
    cases h
    rfl
  | cons fs rest ih =>
    obtain ⟨b, others, hb, hothers, rfl⟩ := filter_cons_eq_ok.mp h
    have hall := Condition.everyEvalsTo_sound (fun c _ => c.evalsTo_sound true) hb
    rw [List.filter_cons, ← hall, ← ih hothers]

theorem exists_filter {conditions : List Condition} {rows : List Frames}
    (quiet : ∀ fs ∈ rows, ∀ c ∈ conditions, c.Quiet s params fs) :
    ∃ found, s.filter params conditions rows = .ok found := by
  induction rows with
  | nil => exact ⟨[], rfl⟩
  | cons fs rest ih =>
    rw [List.forall_mem_cons] at quiet
    obtain ⟨b, hb⟩ := Condition.exists_everyEvalsTo fun c hc => c.exists_evalsTo true (quiet.1 c hc)
    obtain ⟨others, hothers⟩ := ih quiet.2
    exact ⟨_, filter_cons_eq_ok.mpr ⟨b, others, hb, hothers, rfl⟩⟩

theorem inTurn_perm (holds : Condition → Row → Bool) (cs : List Condition) (rows : List Row) :
    (inTurn holds cs rows).Perm rows := by
  induction cs generalizing rows with
  | nil => exact .refl _
  | cons c rest ih =>
    have others := (ih (rows.filter (!holds c ·))).append_left (rows.filter (holds c))
    exact others.trans (List.filter_append_perm (holds c) rows)

theorem visited_perm (s : Store) (t : Table) (params : List Value) (q : Select) :
    (s.visited t params q).Perm t.rows := by
  have scanned : (t.scanned q).Perm t.rows := by
    rw [Table.scanned]
    split
    · exact sortBy_perm _ _
    · exact .refl _
  rw [visited]
  split
  next => exact scanned
  next =>
    split
    · exact sortBy_perm _ _
    · split
      · exact (inTurn_perm _ _ _).trans (sortBy_perm _ _)
      · exact scanned

/-- The frames of the rows of a table that a statement finds, as they are visited. -/
def find (s : Store) (t : Table) (f : Fragment) : Except StoreError (List Frames) :=
  s.filter f.params (f.select.condition.arranged f.params (t.isKey f.select.source.row))
    ((s.visited t f.params f.select).map (framesOf t f.select))

theorem find_sound {t : Table} {f : Fragment} {rows : List Frames} (h : s.find t f = .ok rows) :
    rows = ((s.visited t f.params f.select).map (framesOf t f.select)).filter fun fs =>
      f.select.condition.truth s f.params fs == some true := by
  rw [filter_sound h]
  simp only [Condition.arranged_true]

theorem exists_find {t : Table} {f : Fragment}
    (quiet : ∀ r ∈ t.rows, f.select.condition.Quiet s f.params (framesOf t f.select r)) :
    ∃ rows, s.find t f = .ok rows := by
  refine exists_filter fun fs hfs part hpart => ?_
  obtain ⟨r, hr, rfl⟩ := List.mem_map.mp hfs
  have hrow := (visited_perm s t f.params f.select).mem_iff.mp hr
  exact Condition.conjuncts_quiet (quiet r hrow) part
    ((Condition.arranged_perm _ _ _).mem_iff.mp hpart)

/-- The statement is on this table, and the store can read it. -/
structure Accepts (s : Store) (t : Table) (f : Fragment) : Prop where
  table : s.table? f.select.source.table = some t
  legible : hasNul f.text = false
  bound : s.isBound t f.select = true

theorem Accepts.run_eq {t : Table} {f : Fragment} (h : s.Accepts t f) :
    s.run f = result f.params f.select <$> s.find t f := by
  have hrun : s.run f = s.find t f >>= fun rows => pure (result f.params f.select rows) := by
    simp only [run, h.table, h.legible, h.bound]
    rfl
  rw [hrun]
  cases s.find t f <;> rfl

theorem run_eq_ok {f : Fragment} {values : List Value} :
    s.run f = .ok values ↔ ∃ t rows, s.Accepts t f ∧ s.find t f = .ok rows ∧
      result f.params f.select rows = values := by
  constructor
  · intro h
    have accepts : ∃ t, s.Accepts t f := by
      rw [run] at h
      split at h
      next => cases h
      next t ht =>
        split at h
        next => cases h
        next hfit =>
          obtain ⟨hlegible, hbound⟩ : hasNul f.text = false ∧ s.isBound t f.select = true := by
            simpa using hfit
          exact ⟨t, ht, hlegible, hbound⟩
    obtain ⟨t, ht⟩ := accepts
    rw [ht.run_eq, map_eq_ok] at h
    obtain ⟨rows, hrows, hresult⟩ := h
    exact ⟨t, rows, ht, hrows, hresult⟩
  · rintro ⟨t, rows, ht, hrows, hresult⟩
    rw [ht.run_eq, map_eq_ok]
    exact ⟨rows, hrows, hresult⟩

/-- A statement that the store can read succeeds if no comparison in it fails. -/
theorem Accepts.exists_run {t : Table} {f : Fragment} (accepts : s.Accepts t f)
    (quiet : ∀ r ∈ t.rows, f.select.condition.Quiet s f.params (framesOf t f.select r)) :
    ∃ rows, s.run f = .ok (result f.params f.select rows) := by
  obtain ⟨rows, hrows⟩ := exists_find quiet
  exact ⟨rows, run_eq_ok.mpr ⟨t, rows, accepts, hrows, rfl⟩⟩

/-- A statement without a window returns its column of the rows on which its condition is true. -/
theorem run_sound {f : Fragment} {c : ColumnName} {values : List Value}
    (h : s.run f = .ok values) (output : f.select.output = .column c)
    (whole : f.select.window = none) :
    ∃ t, s.Accepts t f ∧ values.Perm (((t.rows.map (framesOf t f.select)).filter fun fs =>
      f.select.condition.truth s f.params fs == some true).map (·.value c)) := by
  obtain ⟨t, rows, accepts, hrows, rfl⟩ := run_eq_ok.mp h
  refine ⟨t, accepts, ?_⟩
  simp only [result, output, whole, Option.elim_none, find_sound hrows]
  refine ((sortBy_perm _ _).trans (List.Perm.filter _ ?_)).map _
  exact (visited_perm s t f.params f.select).map _

end Store

end FieldSearch
