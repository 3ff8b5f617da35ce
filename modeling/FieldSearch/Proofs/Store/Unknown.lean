import FieldSearch.Proofs.Sql.Meaning
import FieldSearch.Proofs.Store.Testing

/-!
# Where filters are unknown

A condition that is tested both ways and comes out as neither has a part that is unknown. Conditions
on related rows are true or false, and so are tests for null and lists that are empty or have null
in them. All that is left are columns of the row itself that are null where they are compared.
-/

namespace FieldSearch

open Sql

namespace Sql

namespace Value

theorem isNull_ofScalar (v : Scalar) : (ofScalar v).isNull = v.isNull := by
  cases v <;> rfl

/-- A text that is read as a number is not null. -/
theorem numberOfText?_isNull {s : String} {v : Value} (h : numberOfText? s = some v) :
    v.isNull = false := by
  have of_real : ∀ {x : Option Binary64}, x.map real = some v → v.isNull = false := by
    intro x hx
    obtain ⟨y, -, rfl⟩ := Option.map_eq_some_iff.mp hx
    rfl
  have of_integer : ∀ {n : Int}, integerValue? n = some v → v.isNull = false := by
    intro n hn
    rw [integerValue?] at hn
    split at hn
    · cases hn
      rfl
    · cases hn
  simp only [numberOfText?] at h
  -- with and without a point, all other branches are the same
  split at h
  all_goals
    split at h
    next => cases h
    next =>
      split at h
      next => cases h
      next =>
        split at h
        next => cases h
        next =>
          split at h
          next => exact of_real h
          next =>
            rcases Option.or_eq_some_iff.mp h with h | ⟨-, h⟩
            · exact of_integer h
            · exact of_real h

theorem isNull_asNumber (v : Value) : v.asNumber.isNull = v.isNull := by
  cases v with
  | text s =>
    rw [asNumber]
    cases h : numberOfText? s with
    | none => rfl
    | some w => exact numberOfText?_isNull h
  | _ => rfl

theorem isNull_asText (v : Value) : v.asText.isNull = v.isNull := by
  cases v <;> rfl

theorem isNull_adapt (type : StorageType) (v : Value) : (type.adapt v).isNull = v.isNull := by
  cases type with
  | integer => exact isNull_asNumber v
  | real => exact isNull_asNumber v
  | text => exact isNull_asText v

theorem test_eq_none {holds : Ordering → Bool} {v w : Value} (h : test holds v w = none) :
    v.isNull = true ∨ w.isNull = true := by
  rw [test] at h
  split at h
  next hnull => simpa using hnull
  next => cases h

theorem chars?_eq_none {v : Value} (h : v.chars? = none) : v.isNull = true := by
  cases v with
  | null => rfl
  | _ => cases h

/-- A comparison that does not fail is unknown only if one of the values is null. -/
theorem compare_unknown {comparison : Comparison} {type : StorageType} {v operand : Value}
    (h : v.compare comparison type operand = .ok none) :
    v.isNull = true ∨ operand.isNull = true := by
  have of_test : ∀ {holds : Ordering → Bool}, test holds v (type.adapt operand) = none →
      v.isNull = true ∨ operand.isNull = true := by
    intro holds hnone
    rw [← isNull_adapt type operand]
    exact test_eq_none hnone
  cases comparison with
  | like =>
    have hlike : v.like operand = none := Except.ok.inj h
    cases hpattern : operand.chars? with
    | none => exact .inr (chars?_eq_none hpattern)
    | some pattern =>
      cases htext : v.chars? with
      | none => exact .inl (chars?_eq_none htext)
      | some text => simp [like, hpattern, htext] at hlike
  | regex =>
    cases v with
    | null => exact .inl rfl
    | _ =>
      simp only [compare, search] at h
      split at h
      · split at h <;> cases h
      · cases h
  | isIn => cases h
  | _ => exact of_test (Except.ok.inj h)

/-- Membership in values that are known is unknown only if the column is null. -/
theorem memberTruth_unknown {column : StorageType × Value} {operands : List Value}
    (known : ∀ v ∈ operands, v.isNull = false) (h : memberTruth column operands = none) :
    operands ≠ [] ∧ column.2.isNull = true := by
  obtain ⟨v, hv, hequal⟩ := List.mem_map.mp (Truth.any_eq_none h)
  refine ⟨List.ne_nil_of_mem hv, ?_⟩
  rcases test_eq_none hequal with hcolumn | hoperand
  · exact hcolumn
  · rw [isNull_adapt, known v hv] at hoperand
    cases hoperand

end Value

namespace Condition

variable {s : Store} {params : List Value} {fs : Store.Frames}

/-! ### Tests that come out as unwanted -/

theorem everyEvalsTo_missed {parts : List Condition} {wanted : Bool}
    (h : everyEvalsTo s params wanted fs parts = .ok false) :
    ∃ part ∈ parts, part.evalsTo s params wanted fs = .ok false := by
  induction parts with
  | nil => cases h
  | cons part rest ih =>
    rw [everyEvalsTo] at h
    obtain ⟨found, hfound, h⟩ := bind_eq_ok.mp h
    cases found with
    | false => exact ⟨part, List.mem_cons_self, hfound⟩
    | true =>
      obtain ⟨other, hother, hmissed⟩ := ih h
      exact ⟨other, List.mem_cons_of_mem part hother, hmissed⟩

theorem someEvalsTo_missed {parts : List Condition} {wanted : Bool}
    (h : someEvalsTo s params wanted fs parts = .ok false) :
    ∀ part ∈ parts, part.evalsTo s params wanted fs = .ok false := by
  induction parts with
  | nil => simp
  | cons part rest ih =>
    rw [someEvalsTo] at h
    obtain ⟨found, hfound, h⟩ := bind_eq_ok.mp h
    cases found with
    | false => exact List.forall_mem_cons.mpr ⟨hfound, ih h⟩
    | true => cases h

/-- A conjunct was tested and is not true. -/
def Missed (s : Store) (params : List Value) (fs : Store.Frames) (c : Condition) : Prop :=
  ∃ part ∈ c.conjuncts, part.evalsTo s params true fs = .ok false

theorem missed_of_evalsTo {c : Condition} (h : c.evalsTo s params true fs = .ok false) :
    c.Missed s params fs := by
  induction c using Condition.induct with
  | and parts ih =>
    rw [evalsTo, if_pos rfl] at h
    obtain ⟨part, hpart, hmissed⟩ := everyEvalsTo_missed h
    obtain ⟨conjunct, hconjunct, hfalse⟩ := ih part hpart hmissed
    refine ⟨conjunct, ?_, hfalse⟩
    rw [conjuncts, allConjuncts_eq]
    exact List.mem_flatMap.mpr ⟨part, hpart, hconjunct⟩
  | _ => exact ⟨_, List.mem_cons_self, h⟩

/-- A conjunct of a conjunction belongs to one of the parts. -/
theorem Missed.part {parts : List Condition} (h : (and parts).Missed s params fs) :
    ∃ part ∈ parts, part.Missed s params fs := by
  obtain ⟨conjunct, hconjunct, hfalse⟩ := h
  rw [conjuncts, allConjuncts_eq] at hconjunct
  obtain ⟨part, hpart, hconjunct⟩ := List.mem_flatMap.mp hconjunct
  exact ⟨part, hpart, conjunct, hconjunct, hfalse⟩

/-- What is no conjunction is its own conjunct. -/
theorem Missed.evalsTo {c : Condition} (whole : c.conjuncts = [c]) (h : c.Missed s params fs) :
    c.evalsTo s params true fs = .ok false := by
  obtain ⟨conjunct, hconjunct, hfalse⟩ := h
  rw [whole, List.mem_singleton] at hconjunct
  exact hconjunct ▸ hfalse

/-- What is tested both ways and comes out as neither is unknown. -/
theorem truth_eq_none {c : Condition} (notTrue : c.evalsTo s params true fs = .ok false)
    (notFalse : c.evalsTo s params false fs = .ok false) : c.truth s params fs = none := by
  have htrue := c.evalsTo_sound true false notTrue
  have hfalse := c.evalsTo_sound false false notFalse
  cases h : c.truth s params fs with
  | none => rfl
  | some b => cases b <;> simp [h] at htrue hfalse

end Condition

end Sql

/-! ### Leaves -/

/-- The leaf takes a relation, asks for null, or is about a list that is empty or has null in it. -/
def ResolvedLeaf.isDefinite : ResolvedLeaf → Bool
  | compare (some _) _ _ _ _ => true
  | compare none _ _ _ (.single v) => v.isNull
  | compare none _ _ _ (.list vs) => vs.isEmpty || vs.any (·.isNull)
  | presence _ _ => true

/-- The leaf compares a column of the row that is null, and is not definite. -/
inductive ResolvedLeaf.UnknownOn (row : Store.Record) : ResolvedLeaf → Prop
  | direct {entity name : String} {comparison : Comparison} {operand : Operand} :
      (compare none entity name comparison operand).isDefinite = false →
      (row.value name).isNull = true → UnknownOn row (.compare none entity name comparison operand)

section Unsettled

variable {st : Store} {params : List Value} {s : Sql.Scope} {row : Store.Record} {next : Nat}
  {c : Condition}

theorem column_root {name : String} {column : ColumnName}
    (h : s.column ⟨.root, name⟩ = .ok column) (row : Store.Record) :
    Store.Frames.column [row.frame rootRow] column = row.column name := by
  rw [Scope.column_eq h]
  exact Store.Frames.column_frame row rootRow (by simp) name

theorem membership_unknown {name : String} {column : ColumnName} {vs : List Scalar}
    (h : s.column ⟨.root, name⟩ = .ok column) (known : ∀ v ∈ vs, v.isNull = false)
    (supplies : Supplies params next vs)
    (unknown : (membership column (List.range' next vs.length)).truth st params
      [row.frame rootRow] = none) :
    vs ≠ [] ∧ (row.value name).isNull = true := by
  rw [membership_truth supplies, column_root h row] at unknown
  have hknown : ∀ v ∈ vs.map Value.ofScalar, v.isNull = false := by
    rw [List.forall_mem_map]
    intro v hv
    rw [Value.isNull_ofScalar, known v hv]
  obtain ⟨hne, hnull⟩ := Value.memberTruth_unknown hknown unknown
  exact ⟨by simpa using hne, hnull⟩

/-- The condition of a list is unknown only where the column is null, and then the list is not empty
and has no null in it. -/
theorem ofList_unknown {name : String} {vs : List Scalar}
    (h : condition s next (.ofList ⟨.root, name⟩ vs) = .ok c)
    (supplies : Supplies params next (Predicate.ofList ⟨.root, name⟩ vs).operands)
    (unknown : c.truth st params [row.frame rootRow] = none) :
    (vs.isEmpty || vs.any (·.isNull)) = false ∧ (row.value name).isNull = true := by
  have known : ∀ v ∈ vs.filter (!·.isNull), v.isNull = false := by
    intro v hv
    simpa using (List.mem_filter.mp hv).2
  cases hnull : vs.any (·.isNull) with
  | false =>
    simp only [Predicate.ofList, hnull, Bool.not_false, if_true] at h supplies
    obtain ⟨column, hcolumn, hc⟩ := bind_eq_ok.mp h
    cases hc
    obtain ⟨hne, hvalue⟩ := membership_unknown hcolumn known supplies unknown
    refine ⟨?_, hvalue⟩
    cases vs with
    | nil => exact absurd rfl hne
    | cons v rest => rfl
  | true =>
    exfalso
    simp only [Predicate.ofList, hnull, Bool.not_true, Bool.false_eq_true, if_false] at h supplies
    split at h
    next =>
      obtain ⟨column, -, hc⟩ := bind_eq_ok.mp h
      cases hc
      cases unknown
    next hknown =>
      rw [if_neg hknown] at supplies
      obtain ⟨cs, hcs, hc⟩ := bind_eq_ok.mp h
      cases hc
      obtain ⟨first, hfirst, hrest⟩ := bind_eq_ok.mp hcs
      obtain ⟨others, hothers, hcs⟩ := bind_eq_ok.mp hrest
      cases hcs
      obtain ⟨second, hsecond, hnone⟩ := bind_eq_ok.mp hothers
      obtain ⟨column, hcolumn, hmember⟩ := bind_eq_ok.mp hfirst
      obtain ⟨column', hcolumn', htest⟩ := bind_eq_ok.mp hsecond
      cases hcolumn.symm.trans hcolumn'
      cases hmember
      cases htest
      cases hnone
      rw [Condition.truth, Condition.truths_eq] at unknown
      obtain ⟨hmember, hnotNull⟩ := Truth.any_pair_eq_none unknown
      rw [Predicate.operands, Predicate.allOperands, supplies_append] at supplies
      obtain ⟨-, hvalue⟩ := membership_unknown hcolumn known supplies.1 hmember
      rw [column_root hcolumn row] at hnotNull
      exact Bool.false_ne_true (hnotNull.symm.trans hvalue)

/-- A comparison comes out as neither only where the column is null. -/
theorem compare_neither {name : String} {comparison : Comparison} {v : Scalar}
    (known : v.isNull = false)
    (h : condition s next (.compare ⟨.root, name⟩ comparison v) = .ok c)
    (supplies : Supplies params next [v])
    (notTrue : c.evalsTo st params true [row.frame rootRow] = .ok false)
    (notFalse : c.evalsTo st params false [row.frame rootRow] = .ok false) :
    (row.value name).isNull = true := by
  obtain ⟨column, hcolumn, hc⟩ := bind_eq_ok.mp h
  cases hc
  obtain ⟨t, ht, htrue⟩ := map_eq_ok.mp notTrue
  obtain ⟨t', ht', hfalse⟩ := map_eq_ok.mp notFalse
  cases ht.symm.trans ht'
  have hnone : t = none := by
    cases t with
    | none => rfl
    | some b => cases b <;> simp at htrue hfalse
  rw [hnone, Store.comparison, column_root hcolumn row, supplies.single] at ht
  rcases Value.compare_unknown ht with hnull | hnull
  · exact hnull
  · rw [Value.isNull_ofScalar, known] at hnull
    cases hnull

/-- The condition of a leaf on the row itself comes out as neither only where the leaf is
unknown. -/
theorem ofOperand_neither {entity name : String} {comparison : Comparison} {operand : Operand}
    (h : condition s next (.ofOperand ⟨.root, name⟩ comparison operand) = .ok c)
    (supplies : Supplies params next
      (Predicate.ofOperand ⟨.root, name⟩ comparison operand).operands)
    (notTrue : c.evalsTo st params true [row.frame rootRow] = .ok false)
    (notFalse : c.evalsTo st params false [row.frame rootRow] = .ok false) :
    (ResolvedLeaf.compare none entity name comparison operand).UnknownOn row := by
  have unknown := Condition.truth_eq_none notTrue notFalse
  cases operand with
  | single v =>
    cases v with
    | null =>
      rw [Predicate.ofOperand] at h
      split at h <;>
        · obtain ⟨column, -, hc⟩ := bind_eq_ok.mp h
          cases hc
          cases unknown
    | _ => exact .direct rfl (compare_neither rfl h supplies notTrue notFalse)
  | list vs =>
    obtain ⟨hdefinite, hnull⟩ := ofList_unknown h supplies unknown
    exact .direct hdefinite hnull

/-- What is known to be true or false does not come out as neither. -/
theorem not_neither {fs : Store.Frames} {b : Bool} (known : c.truth st params fs = some b)
    (notTrue : c.evalsTo st params true fs = .ok false)
    (notFalse : c.evalsTo st params false fs = .ok false) : False := by
  rw [Condition.truth_eq_none notTrue notFalse] at known
  cases known

theorem presence_known (b : Binding) (o : Occurrence) (present : Bool) (fs : Store.Frames) :
    ∃ known, (b.presence o present).truth st params fs = some known := by
  cases hj : b.relation.join <;> cases present <;>
    exact ⟨_, by simp only [Binding.presence, hj]; rfl⟩

theorem ofOperand_ne_and (column : Column) (comparison : Comparison) (operand : Operand)
    (parts : List Predicate) : Predicate.ofOperand column comparison operand ≠ .and parts := by
  intro h
  cases operand with
  | single v =>
    cases v with
    | null =>
      rw [Predicate.ofOperand] at h
      split at h <;> cases h
    | _ => cases h
  | list vs =>
    rw [Predicate.ofOperand, Predicate.ofList] at h
    split at h
    · cases h
    · split at h <;> cases h

theorem lowered_leaf_ne_and (p : JoinPlan) (l : ResolvedLeaf) (parts : List Predicate) :
    Predicate.lowered p (.leaf l) ≠ .and parts := by
  intro h
  cases l with
  | compare via entity name comparison operand =>
    cases via with
    | none => exact ofOperand_ne_and _ _ _ _ h
    | some t => cases h
  | presence t present => cases h

/-- What is rendered from no conjunction is its own conjunct. -/
theorem conjuncts_rendered {p : Predicate} (h : condition s next p = .ok c)
    (single : ∀ parts, p ≠ .and parts) : c.conjuncts = [c] := by
  cases p with
  | and parts => exact absurd rfl (single parts)
  | isIn column vs =>
    obtain ⟨name, -, hc⟩ := bind_eq_ok.mp h
    cases hc
    cases vs <;> rfl
  | exist o inner =>
    obtain ⟨inner, -, h⟩ := bind_eq_ok.mp h
    obtain ⟨b, -, hc⟩ := bind_eq_ok.mp h
    cases hc
    rfl
  | related o present =>
    obtain ⟨b, -, hc⟩ := bind_eq_ok.mp h
    cases hc
    cases hj : b.relation.join <;> cases present <;> simp only [Binding.presence, hj] <;> rfl
  | _ =>
    obtain ⟨_, -, hc⟩ := bind_eq_ok.mp h
    cases hc
    rfl

/-- The condition of a leaf comes out as neither only where the leaf is unknown. -/
theorem leaf_neither {p : JoinPlan} {l : ResolvedLeaf} (serves : p.Serves (.leaf l))
    (h : condition s next (.lowered p (.leaf l)) = .ok c)
    (supplies : Supplies params next (Predicate.lowered p (.leaf l)).operands)
    (missed : c.Missed st params [row.frame rootRow])
    (notFalse : c.evalsTo st params false [row.frame rootRow] = .ok false) :
    l.UnknownOn row := by
  have notTrue := missed.evalsTo (conjuncts_rendered h (lowered_leaf_ne_and p l))
  cases l with
  | compare via entity name comparison operand =>
    cases via with
    | none => exact ofOperand_neither h supplies notTrue notFalse
    | some t =>
      obtain ⟨o, -, hp⟩ := (serves _ List.mem_cons_self t rfl).allocate
      rw [Predicate.lowered_via _ _ _ _ hp] at h
      obtain ⟨inner, -, h⟩ := bind_eq_ok.mp h
      obtain ⟨b, -, hc⟩ := bind_eq_ok.mp h
      cases hc
      exact (not_neither rfl notTrue notFalse).elim
  | presence t present =>
    obtain ⟨o, -, hp⟩ := (serves _ List.mem_cons_self t rfl).allocate
    rw [Predicate.lowered_presence _ hp] at h
    obtain ⟨b, -, hc⟩ := bind_eq_ok.mp h
    cases hc
    obtain ⟨known, hknown⟩ : ∃ known,
        (b.presence o present).truth st params [row.frame rootRow] = some known :=
      presence_known b o present _
    exact (not_neither hknown notTrue notFalse).elim

/-- What the children are rendered to is rendered from one of them, with its operands supplied. -/
theorem child_of_rendered {p : JoinPlan} {children : List ResolvedFilter} {cs : List Condition}
    (h : conditions s next (children.map (.lowered p)) = .ok cs)
    (supplies : Supplies params next (Predicate.allOperands (children.map (.lowered p))))
    (hc : c ∈ cs) :
    ∃ child ∈ children, ∃ next, condition s next (.lowered p child) = .ok c ∧
      Supplies params next (Predicate.lowered p child).operands := by
  have each : List.Forall₂ (fun part c => ∃ next, condition s next part = .ok c ∧
      Supplies params next part.operands) (children.map (.lowered p)) cs :=
    (conditions_numbered h).supplied supplies fun _ _ next _ hpart supplies =>
      ⟨next, hpart, supplies⟩
  obtain ⟨part, hpart, next, hrendered, supplies⟩ := forall₂_mem_right each hc
  obtain ⟨child, hchild, rfl⟩ := List.mem_map.mp hpart
  exact ⟨child, hchild, next, hrendered, supplies⟩

/-- A filter that is not true on a row, nor false, has a leaf that is unknown there. -/
theorem filter_neither {p : JoinPlan} {f : ResolvedFilter} (serves : p.Serves f)
    (h : condition s next (.lowered p f) = .ok c)
    (supplies : Supplies params next (Predicate.lowered p f).operands)
    (missed : c.Missed st params [row.frame rootRow])
    (notFalse : c.evalsTo st params false [row.frame rootRow] = .ok false) :
    ∃ l ∈ f.leaves, l.UnknownOn row := by
  induction f using ResolvedFilter.induct generalizing next c with
  | leaf l => exact ⟨l, List.mem_cons_self, leaf_neither serves h supplies missed notFalse⟩
  | not child ih =>
    rw [Predicate.lowered_not] at h supplies
    obtain ⟨inner, hinner, hc⟩ := bind_eq_ok.mp h
    cases hc
    exact ih serves.child hinner supplies (Condition.missed_of_evalsTo notFalse)
      (missed.evalsTo rfl)
  | and children ih =>
    rw [Predicate.lowered_and serves] at h supplies
    obtain ⟨cs, hcs, hc⟩ := bind_eq_ok.mp h
    cases hc
    obtain ⟨c, hc, hmissed⟩ := missed.part
    have hfalse := Condition.someEvalsTo_missed notFalse c hc
    obtain ⟨child, hchild, next, h, supplies⟩ := child_of_rendered hcs supplies hc
    obtain ⟨l, hl, unknown⟩ := ih child hchild (serves.and child hchild) h supplies hmissed hfalse
    exact ⟨l, ResolvedFilter.mem_leavesOf.mpr ⟨child, hchild, hl⟩, unknown⟩
  | or children ih =>
    rw [Predicate.lowered_or serves] at h supplies
    obtain ⟨cs, hcs, hc⟩ := bind_eq_ok.mp h
    cases hc
    obtain ⟨c, hc, hfalse⟩ := Condition.everyEvalsTo_missed notFalse
    have htrue := Condition.someEvalsTo_missed (missed.evalsTo rfl) c hc
    obtain ⟨child, hchild, next, h, supplies⟩ := child_of_rendered hcs supplies hc
    obtain ⟨l, hl, unknown⟩ := ih child hchild (serves.or child hchild) h supplies
      (Condition.missed_of_evalsTo htrue) hfalse
    exact ⟨l, ResolvedFilter.mem_leavesOf.mpr ⟨child, hchild, hl⟩, unknown⟩

end Unsettled

end FieldSearch
