import FieldSearch.Proofs.Sql.Parameters
import FieldSearch.Proofs.Store.Testing

/-!
# What a statement reads of its parameters

Testing a condition reads the parameters at its placeholders and nowhere else, and the placeholders
of a rendered condition are the numbers of the operands of its predicate, so parameters behind the
operands do not change which rows are found.
-/

namespace FieldSearch

open Sql

namespace Store

/-- Two lists of parameters have the same values under these numbers. -/
def SameAt (params params' : List Value) (ns : List Nat) : Prop :=
  ∀ n ∈ ns, operand params n = operand params' n

theorem SameAt.mono {params params' : List Value} {ns ms : List Nat}
    (h : SameAt params params' ns) (sub : ms ⊆ ns) : SameAt params params' ms :=
  fun n hn => h n (sub hn)

/-- Parameters that are added at the end leave the numbers of the others to them. -/
theorem sameAt_append (params more : List Value) :
    SameAt (params ++ more) params (List.range' 1 params.length) := by
  intro n hn
  have hlt : n - 1 < params.length := by
    rw [List.mem_range'_1] at hn
    omega
  rw [operand, operand, List.getD_eq_getElem?_getD, List.getElem?_append_left hlt,
    List.getD_eq_getElem?_getD]

end Store

namespace Sql.Condition

variable {s s' : Store} {params params' : List Value}

theorem everyEvalsTo_congr {parts : List Condition} {wanted : Bool} {fs : Store.Frames}
    (h : ∀ part ∈ parts, part.evalsTo s params wanted fs = part.evalsTo s' params' wanted fs) :
    everyEvalsTo s params wanted fs parts = everyEvalsTo s' params' wanted fs parts := by
  induction parts with
  | nil => rfl
  | cons part rest ih =>
    rw [List.forall_mem_cons] at h
    rw [everyEvalsTo, everyEvalsTo, h.1, ih h.2]

theorem someEvalsTo_congr {parts : List Condition} {wanted : Bool} {fs : Store.Frames}
    (h : ∀ part ∈ parts, part.evalsTo s params wanted fs = part.evalsTo s' params' wanted fs) :
    someEvalsTo s params wanted fs parts = someEvalsTo s' params' wanted fs parts := by
  induction parts with
  | nil => rfl
  | cons part rest ih =>
    rw [List.forall_mem_cons] at h
    rw [someEvalsTo, someEvalsTo, h.1, ih h.2]

theorem part_placeholders {parts : List Condition} {part : Condition} (h : part ∈ parts) :
    part.placeholders ⊆ allPlaceholders parts := by
  rw [allPlaceholders_eq]
  exact fun n hn => List.mem_flatMap.mpr ⟨part, h, hn⟩

/-- What a condition comes out as depends on the parameters only through its placeholders. -/
theorem evalsTo_congr (c : Condition) (same : Store.SameAt params params' c.placeholders)
    (wanted : Bool) (fs : Store.Frames) :
    c.evalsTo s params wanted fs = c.evalsTo s params' wanted fs := by
  induction c using Condition.induct generalizing wanted fs with
  | compare column comparison n =>
    have hn : Store.operand params n = Store.operand params' n := same n List.mem_cons_self
    simp only [evalsTo, Store.comparison, hn]
  | isIn column ns =>
    have hns : Store.isMember params fs column ns = Store.isMember params' fs column ns := by
      rw [Store.isMember, Store.isMember]
      exact congrArg Truth.any (List.map_congr_left fun n hn => by rw [same n hn])
    rw [evalsTo, evalsTo, hns]
  | isNull column => rfl
  | isNotNull column => rfl
  | existsWith rows inner ih =>
    have hinner : (fun gs => inner.evalsTo s params true gs) =
        fun gs => inner.evalsTo s params' true gs := funext (ih same true)
    rw [evalsTo, evalsTo, hinner]
  | existsAny rows => rfl
  | existsNone rows => rfl
  | not inner ih => exact ih same (!wanted) fs
  | and parts ih =>
    have each : ∀ wanted, ∀ part ∈ parts,
        part.evalsTo s params wanted fs = part.evalsTo s params' wanted fs :=
      fun wanted part h => ih part h (same.mono (part_placeholders h)) wanted fs
    rw [evalsTo, evalsTo, everyEvalsTo_congr (each true), someEvalsTo_congr (each false)]
  | or parts ih =>
    have each : ∀ wanted, ∀ part ∈ parts,
        part.evalsTo s params wanted fs = part.evalsTo s params' wanted fs :=
      fun wanted part h => ih part h (same.mono (part_placeholders h)) wanted fs
    rw [evalsTo, evalsTo, someEvalsTo_congr (each true), everyEvalsTo_congr (each false)]

/-! ### The order in which rows and conditions are tested -/

theorem someByKey_congr {isKey : ColumnName → Bool} {parts : List Condition}
    (h : ∀ part ∈ parts, part.isByKey params isKey = part.isByKey params' isKey) :
    someByKey params isKey parts = someByKey params' isKey parts := by
  induction parts with
  | nil => rfl
  | cons part rest ih =>
    rw [List.forall_mem_cons] at h
    rw [someByKey, someByKey, h.1, ih h.2]

theorem allByKey_congr {isKey : ColumnName → Bool} {parts : List Condition}
    (h : ∀ part ∈ parts, part.isByKey params isKey = part.isByKey params' isKey) :
    allByKey params isKey parts = allByKey params' isKey parts := by
  induction parts with
  | nil => rfl
  | cons part rest ih =>
    rw [List.forall_mem_cons] at h
    rw [allByKey, allByKey, h.1, ih h.2]

theorem isByKey_congr (isKey : ColumnName → Bool) (c : Condition)
    (same : Store.SameAt params params' c.placeholders) :
    c.isByKey params isKey = c.isByKey params' isKey := by
  induction c using Condition.induct with
  | compare column comparison n =>
    have hn : Store.operand params n = Store.operand params' n := same n List.mem_cons_self
    rw [isByKey, isByKey, hn]
  | and parts ih =>
    rw [isByKey, isByKey]
    exact someByKey_congr fun part h => ih part h (same.mono (part_placeholders h))
  | or parts ih =>
    rw [isByKey, isByKey]
    exact allByKey_congr fun part h => ih part h (same.mono (part_placeholders h))
  | _ => rfl

/-- What passes from a conjunction to its parts passes to the conjuncts of a condition. -/
theorem forall_conjuncts {P : Condition → Prop}
    (and : ∀ parts, P (.and parts) → ∀ part ∈ parts, P part) {c : Condition} (h : P c) :
    ∀ part ∈ c.conjuncts, P part := by
  induction c using Condition.induct with
  | and parts ih =>
    intro part hpart
    rw [conjuncts, allConjuncts_eq] at hpart
    obtain ⟨of, hof, hpart⟩ := List.mem_flatMap.mp hpart
    exact ih of hof (and parts h of hof) part hpart
  | _ => exact List.forall_mem_singleton.mpr h

theorem conjunct_placeholders {c part : Condition} (h : part ∈ c.conjuncts) :
    part.placeholders ⊆ c.placeholders := by
  apply forall_conjuncts (P := fun part => part.placeholders ⊆ c.placeholders) ?_ (fun _ => id)
    part h
  intro parts sub part hpart
  exact List.Subset.trans (part_placeholders hpart) sub

theorem arranged_congr (isKey : ColumnName → Bool) {c : Condition}
    (same : Store.SameAt params params' c.placeholders) :
    c.arranged params isKey = c.arranged params' isKey := by
  have hkey : ∀ part ∈ c.conjuncts, part.isByKey params isKey = part.isByKey params' isKey :=
    fun part h => part.isByKey_congr isKey (same.mono (conjunct_placeholders h))
  have hfinding := List.filter_congr hkey
  have hothers := List.filter_congr fun part h => congrArg Bool.not (hkey part h)
  simp only [arranged, List.partition_eq_filter_filter]
  rw [hfinding]
  simp only [Function.comp_def, hothers]

@[simp]
theorem allDisjuncts_eq (parts : List Condition) :
    allDisjuncts parts = parts.flatMap disjuncts := by
  induction parts with
  | nil => rfl
  | cons part rest ih => rw [allDisjuncts, ih, List.flatMap_cons]

/-- What passes from a conjunction and from a disjunction to their parts passes to the disjuncts. -/
theorem forall_disjuncts {P : Condition → Prop}
    (and : ∀ parts, P (.and parts) → ∀ part ∈ parts, P part)
    (or : ∀ parts, P (.or parts) → ∀ part ∈ parts, P part) {c : Condition} (h : P c) :
    ∀ part ∈ c.disjuncts, P part := by
  have group : ∀ {parts : List Condition}, (∀ of ∈ parts, ∀ part ∈ of.disjuncts, P part) →
      ∀ part ∈ allDisjuncts parts, P part := by
    intro parts each part hpart
    rw [allDisjuncts_eq] at hpart
    obtain ⟨of, hof, hpart⟩ := List.mem_flatMap.mp hpart
    exact each of hof part hpart
  induction c using Condition.induct with
  | and parts ih =>
    rw [disjuncts]
    split
    · exact group fun of hof => ih of hof (and parts h of hof)
    · exact List.forall_mem_singleton.mpr h
  | or parts ih =>
    rw [disjuncts]
    split
    next hempty =>
      rw [List.isEmpty_iff.mp hempty] at h
      exact List.forall_mem_singleton.mpr h
    next => exact group fun of hof => ih of hof (or parts h of hof)
  | _ => exact List.forall_mem_singleton.mpr h

theorem disjunct_placeholders {c part : Condition} (h : part ∈ c.disjuncts) :
    part.placeholders ⊆ c.placeholders := by
  apply forall_disjuncts (P := fun part => part.placeholders ⊆ c.placeholders) ?and ?or
    (fun _ => id) part h
  case and =>
    intro parts sub part hpart
    exact List.Subset.trans (part_placeholders hpart) sub
  case or =>
    intro parts sub part hpart
    exact List.Subset.trans (part_placeholders hpart) sub

theorem keyQuarters?_congr (isKey : ColumnName → Bool) (c : Condition)
    (same : Store.SameAt params params' c.placeholders) :
    c.keyQuarters? params isKey = c.keyQuarters? params' isKey := by
  have fewest : ∀ {parts : List Condition},
      (∀ part ∈ parts, part.keyQuarters? params isKey = part.keyQuarters? params' isKey) →
      fewestQuarters? params isKey parts = fewestQuarters? params' isKey parts := by
    intro parts h
    induction parts with
    | nil => rfl
    | cons part rest ih =>
      rw [List.forall_mem_cons] at h
      rw [fewestQuarters?, fewestQuarters?, h.1, ih h.2]
  have all : ∀ {parts : List Condition},
      (∀ part ∈ parts, part.keyQuarters? params isKey = part.keyQuarters? params' isKey) →
      allQuarters? params isKey parts = allQuarters? params' isKey parts := by
    intro parts h
    induction parts with
    | nil => rfl
    | cons part rest ih =>
      rw [List.forall_mem_cons] at h
      rw [allQuarters?, allQuarters?, h.1, ih h.2]
  induction c using Condition.induct with
  | compare column comparison n =>
    have hn : Store.operand params n = Store.operand params' n := same n List.mem_cons_self
    rw [keyQuarters?, keyQuarters?, hn]
  | and parts ih =>
    have each := fun part h => ih part h (same.mono (part_placeholders h))
    rw [keyQuarters?, keyQuarters?, fewest each, all each]
  | or parts ih =>
    rw [keyQuarters?, keyQuarters?]
    rw [all fun part h => ih part h (same.mono (part_placeholders h))]
  | _ => rfl

theorem finder?_congr (isKey : ColumnName → Bool) {c : Condition}
    (same : Store.SameAt params params' c.placeholders) :
    c.finder? params isKey = c.finder? params' isKey := by
  have hquarters : ∀ part ∈ c.conjuncts.filter isOneSearch ++ c.conjuncts.filter (!isOneSearch ·),
      (part.keyQuarters? params isKey).map (·, part) =
        (part.keyQuarters? params' isKey).map (·, part) := by
    intro part hpart
    have hconjunct : part ∈ c.conjuncts := by
      rcases List.mem_append.mp hpart with h | h <;> exact List.mem_of_mem_filter h
    rw [part.keyQuarters?_congr isKey (same.mono (conjunct_placeholders hconjunct))]
  simp only [finder?, List.partition_eq_filter_filter, Function.comp_def,
    List.filterMap_congr hquarters]

theorem finder?_mem {isKey : ColumnName → Bool} {c part : Condition} {quarters : Nat}
    (h : c.finder? params isKey = some (quarters, part)) : part ∈ c.conjuncts := by
  simp only [finder?, List.partition_eq_filter_filter] at h
  obtain ⟨part', hpart', hfinder⟩ := List.mem_filterMap.mp (List.mem_of_find?_eq_some h)
  obtain ⟨_, -, hpair⟩ := Option.map_eq_some_iff.mp hfinder
  cases hpair
  rcases List.mem_append.mp hpart' with h | h <;> exact List.mem_of_mem_filter h

end Sql.Condition

namespace Store

variable {s s' : Store} {params params' : List Value}

theorem inTurn_congr {holds holds' : Condition → Row → Bool} {cs : List Condition}
    (h : ∀ c ∈ cs, holds c = holds' c) (rows : List Row) :
    inTurn holds cs rows = inTurn holds' cs rows := by
  induction cs generalizing rows with
  | nil => rfl
  | cons c rest ih =>
    rw [List.forall_mem_cons] at h
    rw [inTurn, inTurn, h.1, ih h.2]

/-- Rows are visited in the order in which the alternatives of one conjunct find them, so only the
tests of these make a difference to it. -/
theorem visited_congr (t : Table) {q : Select}
    (finder : q.condition.finder? params (t.isKey q.source.row) =
      q.condition.finder? params' (t.isKey q.source.row))
    (same : ∀ part ∈ q.condition.conjuncts, ∀ c ∈ part.disjuncts, ∀ fs,
      c.evalsTo s params true fs = c.evalsTo s' params' true fs) :
    s.visited t params q = s'.visited t params' q := by
  rw [visited, visited, finder]
  split
  next => rfl
  next quarters part hfinder =>
    have hholds : ∀ c ∈ part.disjuncts, s.holds t params q c = s'.holds t params' q c := by
      intro c hc
      funext r
      rw [holds, holds, same part (Condition.finder?_mem hfinder) c hc]
    rw [inTurn_congr hholds t.byKey]

theorem filter_congr {conditions : List Condition}
    (same : ∀ c ∈ conditions, ∀ fs, c.evalsTo s params true fs = c.evalsTo s' params' true fs)
    (rows : List Frames) :
    s.filter params conditions rows = s'.filter params' conditions rows := by
  induction rows with
  | nil => rfl
  | cons fs rest ih =>
    have hfound := Condition.everyEvalsTo_congr fun c hc => same c hc fs
    rw [filter, filter, hfound, ih]

end Store

end FieldSearch
