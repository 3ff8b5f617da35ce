import FieldSearch.Proofs.Calendar.Chronology
import FieldSearch.Proofs.Search.Membership
import FieldSearch.Proofs.Sql.Shape
import FieldSearch.Proofs.Store.Ranking

/-!
# Dates and times in the store

A date or a date and time that is accepted as an operand is stored as a text, which is accepted in
its turn and stands for the same moment to the microsecond. So searches with either are the same
statement. Columns with such texts are compared and sorted by them. Moments are equal just if their
texts are, and those of years from 0 to 9999 are in the order of their texts, leap seconds included.
Later years have a sign, which puts their texts before all others.
-/

namespace FieldSearch

open Sql

/-- The value to the microsecond. -/
def Scalar.truncated : Scalar → Scalar
  | .datetime t => .datetime t.truncated
  | v => v

/-- The value is a date or a date and time. -/
def Scalar.IsMoment (v : Scalar) : Prop := v.type? = some .date ∨ v.type? = some .datetime

theorem Sql.Value.ofScalar_truncated (v : Scalar) : ofScalar v.truncated = ofScalar v := by
  cases v with
  | datetime t => exact congrArg text t.storageText_truncated
  | _ => rfl

theorem Scalar.IsMoment.ne_null {v : Scalar} (moment : v.IsMoment) : v ≠ .null := by
  rintro rfl
  rcases moment with h | h <;> cases h

theorem Scalar.IsMoment.truncated {v : Scalar} (moment : v.IsMoment) : v.truncated.IsMoment := by
  cases v <;> exact moment

/-- No pattern is asked for in a moment. -/
theorem Scope.checkPattern_moment (comparison : Comparison) {v : Scalar} (moment : v.IsMoment) :
    checkPattern comparison v = .ok () := by
  rcases moment with h | h <;> cases v <;> cases h <;> cases comparison <;> rfl

/-- The value is a moment that some operand of the type is converted to. -/
def Scope.Reads (scope : FieldSearch.Scope) (type : ScalarType) (v : Scalar) : Prop :=
  v.IsMoment ∧ ∃ j, scope.value type j = .ok v

theorem Scope.Reads.type {scope : FieldSearch.Scope} {type : ScalarType} {v : Scalar}
    (h : scope.Reads type v) : v.type? = some type := by
  obtain ⟨moment, j, hj⟩ := h
  rcases Scope.value_type hj with ⟨-, null⟩ | ⟨-, typed⟩
  · exact absurd null moment.ne_null
  · exact typed

/-- What an accepted moment is stored as is accepted, and is the same moment to the microsecond. -/
theorem Scope.Reads.stored {scope : FieldSearch.Scope} {type : ScalarType} {v : Scalar}
    (h : scope.Reads type v) :
    ∃ text, Value.ofScalar v = .text text ∧
      scope.value type (.string text) = .ok v.truncated := by
  have typed := h.type
  rcases h.1 with hdate | hdatetime
  · cases v <;> cases hdate
    next d =>
      cases typed
      refine ⟨d.text, rfl, ?_⟩
      simp [Scope.value, Scope.convert?, Json.string?, Date.ofOperand?_text, Scalar.truncated]
  · cases v <;> cases hdatetime
    next t =>
      cases typed
      refine ⟨t.storageText, rfl, ?_⟩
      simp [Scope.value, Scope.convert?, Json.string?, Datetime.ofOperand?_storageText,
        Scalar.truncated]

/-! ### Leaves -/

theorem Predicate.ofOperand_known (column : Column) (comparison : Comparison) {v : Scalar}
    (known : v ≠ .null) :
    ofOperand column comparison (.single v) = compare column comparison v := by
  cases v with
  | null => exact absurd rfl known
  | _ => rfl

section Leaves

variable (p : JoinPlan) (scope : FieldSearch.Scope) (via : Option Relation) (e : Entity)
  (a : Attribute) (comparison : Comparison) {v w : Scalar}

theorem Predicate.lowered_operands (known : v ≠ .null) :
    (lowered p (.leaf (scope.comparing via e a comparison (.single v)))).operands = [v] := by
  cases via <;> simp [lowered, ofFilter, ofLeaf, Scope.comparing, ofOperand_known _ _ known,
    operands]

theorem Predicate.lowered_shape (known : v ≠ .null) (known' : w ≠ .null) :
    (lowered p (.leaf (scope.comparing via e a comparison (.single v)))).shape =
      (lowered p (.leaf (scope.comparing via e a comparison (.single w)))).shape := by
  cases via <;> simp [lowered, ofFilter, ofLeaf, Scope.comparing, ofOperand_known _ _ known,
    ofOperand_known _ _ known', shape]

end Leaves

/-- Plans whose operands are the same to the microsecond are the same statements. -/
theorem Plan.Alike.statements_truncated {registry : Registry} {p q : Plan} (alike : p.Alike q)
    (page : p.page = q.page)
    (operands : p.predicate.operands = q.predicate.operands.map Scalar.truncated) :
    select registry p = select registry q ∧ count registry p = count registry q := by
  have values : operandValues p = operandValues q := by
    simp only [operandValues, operands, List.map_map, Function.comp_def, Value.ofScalar_truncated]
  exact ⟨alike.select_eq values page, alike.count_eq values⟩

namespace Compiler

open FieldSearch.Filter

variable {c : Compiler} {name : String} {path : List String} {token s : String}
  {comparison : Comparison} {orderBy : Json} {page : Option Page} {plan : Plan}

/-- With the text that a moment is stored as in the place of its operand, a leaf is the same
statements. -/
theorem compile_stored (hlength : 2 ≤ path.length)
    (known : (token, comparison) ∈ Comparison.tokenTable)
    (h : c.compile name (leafNode path token (.string s)) orderBy page = .ok plan) {v : Scalar}
    (hv : v ∈ plan.predicate.operands) (moment : v.IsMoment) :
    ∃ text, Value.ofScalar v = .text text ∧
      ∃ plan', c.compile name (leafNode path token (.string text)) orderBy page = .ok plan' ∧
        select c.registry plan' = select c.registry plan ∧
        count c.registry plan' = count c.registry plan := by
  obtain ⟨root, r, terms, start, hr, hterms, rfl⟩ := compile_eq_ok h
  obtain ⟨room, resolved, hleaf, rfl⟩ := (resolve_leafNode hlength known).mp hr
  obtain ⟨via, e, a, same⟩ := Scope.leaf_string (scope_searchable start) hleaf
  rw [same] at hleaf
  obtain ⟨accepted, single, w, hw, -, rfl⟩ := Scope.compareLeaf_string.mp hleaf
  -- the operand is not null, since it is a string, so it is the one value of the plan
  have hvalue : w ≠ .null := by
    rintro rfl
    rcases Scope.value_type hw with ⟨null, -⟩ | ⟨-, typed⟩
    · cases null
    · cases typed
  simp only [Predicate.lowered_operands _ _ _ _ _ _ hvalue, List.mem_singleton] at hv
  subst hv
  obtain ⟨text, htext, hstored⟩ := Scope.Reads.stored ⟨moment, _, hw⟩
  have hleaf' : (c.scope root).leaf
      ⟨path, comparison, .string text, leafNode path token (.string text)⟩ =
        .ok ((c.scope root).comparing via e a comparison (.single v.truncated)) := by
    rw [same]
    exact Scope.compareLeaf_string.mpr
      ⟨accepted, single, _, hstored, Scope.checkPattern_moment _ moment.truncated, rfl⟩
  refine ⟨text, htext, _, compile_of_stages start
    ((resolve_leafNode hlength known).mpr ⟨room, _, hleaf', rfl⟩) hterms page, ?_⟩
  have joins : JoinPlan.ofFilter
      (.leaf ((c.scope root).comparing via e a comparison (.single v.truncated))) =
        JoinPlan.ofFilter (.leaf ((c.scope root).comparing via e a comparison (.single v))) := rfl
  rw [joins]
  refine Plan.Alike.statements_truncated
    ⟨rfl, Predicate.lowered_shape _ _ _ _ _ _ moment.truncated.ne_null moment.ne_null, rfl, rfl,
      rfl⟩ rfl ?_
  simp only [Predicate.lowered_operands _ _ _ _ _ _ moment.truncated.ne_null,
    Predicate.lowered_operands _ _ _ _ _ _ moment.ne_null, List.map_singleton]

end Compiler

/-! ### Order -/

/-- The order in time of two values of one type. Datetimes are compared to the microsecond. -/
def Scalar.cmpTime : Scalar → Scalar → Ordering
  | .date a, .date b => a.cmp b
  | .datetime a, .datetime b => a.truncated.cmp b.truncated
  | _, _ => .eq

/-- The year of a moment. -/
def Scalar.year? : Scalar → Option Int
  | .date d => some d.year
  | .datetime t => some t.date.year
  | _ => none

/-- The moments are in one year, or in years up to 9999 of which one is not negative. -/
def Scalar.InOrder (v w : Scalar) : Prop :=
  ∀ a ∈ v.year?, ∀ b ∈ w.year?, a = b ∨ a ≤ 9999 ∧ b ≤ 9999 ∧ (0 ≤ a ∨ 0 ≤ b)

theorem Scalar.InOrder.symm {v w : Scalar} (h : v.InOrder w) : w.InOrder v := by
  intro b hb a ha
  rcases h a ha b hb with rfl | ⟨hv, hw, positive⟩
  · exact .inl rfl
  · exact .inr ⟨hw, hv, positive.symm⟩

/-- Whether a comparison holds of values in this order. -/
def Comparison.holds : Comparison → Ordering → Bool
  | eq, o => o == .eq
  | ne, o => o != .eq
  | lt, o => o == .lt
  | le, o => o != .gt
  | gt, o => o == .gt
  | ge, o => o != .lt
  | _, _ => false

namespace Scalar

/-- Two operands of one type are both dates or both datetimes. -/
theorem reads_alike {scope : FieldSearch.Scope} {type : ScalarType} {v w : Scalar}
    (hv : scope.Reads type v) (hw : scope.Reads type w) :
    (∃ a b, v = .date a ∧ w = .date b) ∨ ∃ a b, v = .datetime a ∧ w = .datetime b := by
  have htype := hv.type.trans hw.type.symm
  rcases hv.1 with h | h
  · cases v <;> cases h
    cases w <;> cases htype
    exact .inl ⟨_, _, rfl, rfl⟩
  · cases v <;> cases h
    cases w <;> cases htype
    exact .inr ⟨_, _, rfl, rfl⟩

section Pairs

variable {v w : Scalar}
  (alike : (∃ a b, v = .date a ∧ w = .date b) ∨ ∃ a b, v = .datetime a ∧ w = .datetime b)

include alike

theorem cmpTime_eq_eq : v.cmpTime w = .eq ↔ v.truncated = w.truncated := by
  rcases alike with ⟨a, b, rfl, rfl⟩ | ⟨a, b, rfl, rfl⟩
  · simp only [cmpTime, truncated, Date.cmp_eq_eq, date.injEq]
  · simp only [cmpTime, truncated, Datetime.cmp_eq_eq, datetime.injEq]

/-- Moments are equal just if they are stored as the same text. -/
theorem cmp_eq_eq : (Value.ofScalar v).cmp (.ofScalar w) = .eq ↔ v.truncated = w.truncated := by
  rcases alike with ⟨a, b, rfl, rfl⟩ | ⟨a, b, rfl, rfl⟩
  · simp only [Value.ofScalar, Value.cmp, Date.compare_text_eq, truncated, date.injEq]
  · simp only [Value.ofScalar, Value.cmp, Datetime.compare_storageText_eq, truncated,
      datetime.injEq]

theorem cmp_eq_cmpTime (h : v.InOrder w) :
    (Value.ofScalar v).cmp (.ofScalar w) = v.cmpTime w := by
  have dates : ∀ {a b : Date},
      (a.year = b.year ∨ a.year ≤ 9999 ∧ b.year ≤ 9999 ∧ (0 ≤ a.year ∨ 0 ≤ b.year)) →
        a.cmpText b = a.cmp b := by
    rintro a b (hyear | ⟨ha, hb, positive⟩)
    · exact Date.cmpText_of_year hyear
    · exact Date.cmpText_eq_cmp ha hb positive
  rcases alike with ⟨a, b, rfl, rfl⟩ | ⟨a, b, rfl, rfl⟩
  · have hdate := dates (h _ rfl _ rfl)
    rw [← Date.compare_text] at hdate
    exact hdate
  · have hdate := dates (h _ rfl _ rfl)
    have htext := Datetime.compare_storageText a b
    rw [hdate] at htext
    exact htext

theorem cmp_late (h : ∀ a ∈ v.year?, 9999 < a) (h' : ∀ b ∈ w.year?, b ≤ 9999) :
    (Value.ofScalar v).cmp (.ofScalar w) = .lt := by
  rcases alike with ⟨a, b, rfl, rfl⟩ | ⟨a, b, rfl, rfl⟩
  · have hdate := Date.cmpText_plus (h _ rfl) (h' _ rfl)
    rw [← Date.compare_text] at hdate
    exact hdate
  · have htext := Datetime.compare_storageText a b
    rw [Date.cmpText_plus (h _ rfl) (h' _ rfl)] at htext
    exact htext

end Pairs

end Scalar

/-! ### Columns with stored moments -/

theorem Sql.Value.compareTruth_texts (s t : String) {comparison : Comparison}
    (h : comparison.isEquality = true ∨ comparison.isOrdering = true) :
    compareTruth comparison (.text, text s) (text t) =
      some (comparison.holds (cmp (text s) (text t))) := by
  rcases h with h | h <;> cases comparison <;> cases h <;> rfl

/-- Equality looks only at whether the values are equal. -/
theorem Comparison.holds_congr {comparison : Comparison} (h : comparison.isEquality = true)
    {o o' : Ordering} (same : o = .eq ↔ o' = .eq) : comparison.holds o = comparison.holds o' := by
  revert same
  cases comparison <;> cases h <;> cases o <;> cases o' <;> decide

section Columns

variable {scope : FieldSearch.Scope} {type : ScalarType} {v w : Scalar}

/-- A comparison with a stored moment is one of the moments, for equality whatever the years. -/
theorem Operand.truth_moment (hv : scope.Reads type v) (hw : scope.Reads type w)
    {comparison : Comparison}
    (h : comparison.isEquality = true ∨ comparison.isOrdering = true ∧ v.InOrder w) :
    (Operand.single w).truth comparison (.text, .ofScalar v) =
      some (comparison.holds (v.cmpTime w)) := by
  have alike := Scalar.reads_alike hv hw
  have hsingle : (Operand.single w).truth comparison (.text, .ofScalar v) =
      Value.compareTruth comparison (.text, .ofScalar v) (.ofScalar w) := by
    cases w with
    | null => exact absurd rfl hw.1.ne_null
    | _ => rfl
  obtain ⟨s, hs, -⟩ := hv.stored
  obtain ⟨t, ht, -⟩ := hw.stored
  rw [hsingle, hs, ht, Value.compareTruth_texts s t (h.imp_right And.left), ← hs, ← ht]
  rcases h with equality | ⟨-, inOrder⟩
  · have same : (Value.ofScalar v).cmp (.ofScalar w) = .eq ↔ v.cmpTime w = .eq :=
      (Scalar.cmp_eq_eq alike).trans (Scalar.cmpTime_eq_eq alike).symm
    rw [Comparison.holds_congr equality same]
  · rw [Scalar.cmp_eq_cmpTime alike inOrder]

/-- A stored moment is in a list just if the list has the moment. -/
theorem Operand.truth_moments (hv : scope.Reads type v) {ws : List Scalar}
    (hws : ∀ w ∈ ws, scope.Reads type w) :
    (Operand.list ws).truth .isIn (.text, .ofScalar v) =
      some (ws.any fun w => v.cmpTime w == .eq) := by
  have each : ws.map (fun w => (Operand.single w).truth .eq (.text, .ofScalar v)) =
      ws.map fun w => some (v.cmpTime w == .eq) :=
    List.map_congr_left fun w hw => Operand.truth_moment hv (hws w hw) (.inl rfl)
  rw [Operand.truth_list, each, Truth.any_known]

/-- Rows are sorted by their stored moments. -/
theorem OrderTerm.order_moment (hv : scope.Reads type v) (hw : scope.Reads type w)
    (inOrder : v.InOrder w) {a : Attribute} (typed : a.type = type) {row row' : Store.Record}
    (hrow : row.value a.name = .ofScalar v) (hrow' : row'.value a.name = .ofScalar w) :
    (ofAttribute a .asc).order row row' = v.cmpTime w ∧
      (ofAttribute a .desc).order row' row = v.cmpTime w := by
  have bytes : a.type.isText = false := by
    have htype := hv.type
    rw [typed]
    rcases hv.1 with h | h <;> cases htype.symm.trans h <;> rfl
  have horder : Value.order a.type.isText (.ofScalar v) (.ofScalar w) = v.cmpTime w := by
    obtain ⟨s, hs, -⟩ := hv.stored
    rw [bytes, ← Value.cmpFor_eq_order, ← Scalar.cmp_eq_cmpTime (Scalar.reads_alike hv hw) inOrder,
      hs]
    rfl
  constructor
  · simpa only [OrderTerm.order, ofAttribute, hrow, hrow'] using horder
  · simpa only [OrderTerm.order, ofAttribute, hrow, hrow'] using horder

end Columns

namespace Store

/-- What an accepted date, or date and time, is stored as is accepted in its turn, and stands for
the same to the microsecond. A leaf with this text for its operand is accepted where the leaf with
the operand is, and the searches are answered alike by every store. -/
theorem stored_moments_read_back :
    (∀ (scope : FieldSearch.Scope) type j v, scope.value type j = .ok v → v.IsMoment →
      ∃ text, Value.ofScalar v = .text text ∧
        scope.value type (.string text) = .ok v.truncated) ∧
    ∀ (c : Compiler) name path token comparison s orderBy page plan, 2 ≤ path.length →
      (token, comparison) ∈ Comparison.tokenTable →
      c.compile name (Filter.leafNode path token (.string s)) orderBy page = .ok plan →
      ∀ v ∈ plan.predicate.operands, v.IsMoment →
        ∃ text, Value.ofScalar v = .text text ∧ ∃ plan',
          c.compile name (Filter.leafNode path token (.string text)) orderBy page = .ok plan' ∧
            ∀ st : Store, st.execute c.registry plan' = st.execute c.registry plan ∧
              st.count c.registry plan' = st.count c.registry plan := by
  constructor
  · intro scope type j v h moment
    exact Scope.Reads.stored ⟨moment, j, h⟩
  · intro c name path token comparison s orderBy page plan hlength known h v hv moment
    obtain ⟨text, htext, plan', hplan', hselect, hcount⟩ :=
      Compiler.compile_stored hlength known h hv moment
    refine ⟨text, htext, plan', hplan', fun st => ⟨?_, ?_⟩⟩
    · rw [execute, execute, hselect]
    · rw [Store.count, Store.count, hcount]

namespace Bookcase

/-- Events with the day on which they are held and the time at which they end. -/
def event : Entity :=
  ⟨"Event", "event", "id", true, [⟨"id", .integer⟩, ⟨"held", .date⟩, ⟨"ends", .datetime⟩], []⟩

def calendar : Registry := ⟨[event], []⟩

def agenda : Compiler := ⟨calendar, Sql.Example.config⟩

/-- A leap second before the year 0, with a fraction finer than a microsecond. -/
def leapSecond : Datetime := ⟨⟨-1, 1, 1, by decide⟩, ⟨0, 5, 60, 123456780, by decide⟩⟩

def endingAt (text : String) : Json := Filter.leafNode ["Event", "ends"] "=" (.string text)

def leapPlan : Plan :=
  ⟨"Event", .compare ⟨.root, "ends"⟩ .eq (.datetime leapSecond), [],
    [⟨⟨.root, "id"⟩, .asc, false⟩], none⟩

theorem leapSecond_read : (agenda.scope event).value .datetime
    (.string "-1- 1-1T0:5:60.12345678") = .ok (.datetime leapSecond) := by rfl

theorem leapSecond_compiled :
    agenda.compile "Event" (endingAt "-1- 1-1T0:5:60.12345678") .null none = .ok leapPlan := by rfl

theorem leapSecond_stored : Value.ofScalar (.datetime leapSecond) =
    .text "-0001-01-01T00:05:60.123456" := by rfl

end Bookcase

open Store.Bookcase in
theorem leap_second_read_back :
    (agenda.scope event).value .datetime (.string "-0001-01-01T00:05:60.123456") =
        .ok (.datetime leapSecond.truncated) ∧
      ∃ plan, agenda.compile "Event" (endingAt "-0001-01-01T00:05:60.123456") .null none =
          .ok plan ∧
        ∀ st : Store, st.execute calendar plan = st.execute calendar leapPlan := by
  obtain ⟨text, htext, read⟩ :=
    stored_moments_read_back.1 (agenda.scope event) _ _ _ leapSecond_read (.inr rfl)
  cases leapSecond_stored.symm.trans htext
  obtain ⟨text, htext, plan, hplan, same⟩ :=
    stored_moments_read_back.2 agenda "Event" ["Event", "ends"] "=" .eq _ .null none leapPlan
      (by decide) (by decide) leapSecond_compiled _ List.mem_cons_self (.inr rfl)
  cases leapSecond_stored.symm.trans htext
  exact ⟨read, plan, hplan, fun st => (same st).1⟩

/-- The texts that two operands of one type are bound as are equal just if the moments are, to the
microsecond. In one year, and in years up to 9999 that are not both negative, they are in the order
of time, and so are comparisons with columns that hold such texts and the order of rows. A moment
after 9999 comes before every moment that is not. -/
theorem moments_in_order {scope : FieldSearch.Scope} {type : ScalarType} {v : Scalar}
    (hv : scope.Reads type v) :
    (∀ w, scope.Reads type w →
      ((Value.ofScalar v).cmp (.ofScalar w) = .eq ↔ v.truncated = w.truncated) ∧
      (v.InOrder w → (Value.ofScalar v).cmp (.ofScalar w) = v.cmpTime w) ∧
      ((∀ a ∈ v.year?, 9999 < a) → (∀ b ∈ w.year?, b ≤ 9999) →
        (Value.ofScalar v).cmp (.ofScalar w) = .lt) ∧
      (∀ comparison : Comparison,
        comparison.isEquality = true ∨ comparison.isOrdering = true ∧ v.InOrder w →
        (Operand.single w).truth comparison (.text, .ofScalar v) =
          some (comparison.holds (v.cmpTime w))) ∧
      (v.InOrder w → ∀ a : Attribute, a.type = type → ∀ row row' : Record,
        row.value a.name = .ofScalar v → row'.value a.name = .ofScalar w →
        (OrderTerm.ofAttribute a .asc).order row row' = v.cmpTime w ∧
          (OrderTerm.ofAttribute a .desc).order row' row = v.cmpTime w)) ∧
    ∀ ws : List Scalar, (∀ w ∈ ws, scope.Reads type w) →
      (Operand.list ws).truth .isIn (.text, .ofScalar v) =
        some (ws.any fun w => v.cmpTime w == .eq) := by
  refine ⟨fun w hw => ?_, fun ws hws => Operand.truth_moments hv hws⟩
  have alike := Scalar.reads_alike hv hw
  refine ⟨Scalar.cmp_eq_eq alike, Scalar.cmp_eq_cmpTime alike, Scalar.cmp_late alike, ?_, ?_⟩
  · exact fun comparison => Operand.truth_moment hv hw
  · exact fun inOrder a typed row row' => OrderTerm.order_moment hv hw inOrder typed

namespace Bookcase

def lastDay : Scalar := .date ⟨9999, 12, 31, by decide⟩

/-- The day after the last one whose year has four digits. -/
def nextDay : Scalar := .date ⟨10000, 1, 1, by decide⟩

/-- The end of a leap second. -/
def yearEnd : Scalar :=
  .datetime ⟨⟨2016, 12, 31, by decide⟩, ⟨23, 59, 60, 999999999, by decide⟩⟩

def newYear : Scalar := .datetime ⟨⟨2017, 1, 1, by decide⟩, ⟨0, 0, 0, 0, by decide⟩⟩

theorem yearEnd_read : (agenda.scope event).Reads .datetime yearEnd :=
  ⟨.inr rfl, .string "2016-12-31T23:59:60.999999999", by rfl⟩

theorem newYear_read : (agenda.scope event).Reads .datetime newYear :=
  ⟨.inr rfl, .string "2017-1-1T0:0:0", by rfl⟩

/-- Events that are held after the last day. -/
def later : Json := Filter.leafNode ["Event", "held"] ">" (.string "9999-12-31")

def laterPlan : Plan :=
  ⟨"Event", .compare ⟨.root, "held"⟩ .gt lastDay, [], [⟨⟨.root, "id"⟩, .asc, false⟩], none⟩

def eventTable : TableDef :=
  ⟨"event", some "id", [⟨"id", .integer⟩, ⟨"held", .text⟩, ⟨"ends", .text⟩]⟩

/-- One event on each of the two days. -/
def twoDays : Store :=
  ⟨[⟨eventTable, [⟨1, [.integer 1, .ofScalar lastDay, .null]⟩,
    ⟨2, [.integer 2, .ofScalar nextDay, .null]⟩]⟩]⟩

end Bookcase

open Store.Bookcase in
theorem new_year_in_order :
    (Value.ofScalar yearEnd).cmp (.ofScalar newYear) = .lt ∧
      (Operand.single newYear).truth .lt (.text, .ofScalar yearEnd) = some true ∧
      (Operand.list [newYear]).truth .isIn (.text, .ofScalar yearEnd) = some false := by
  obtain ⟨pairs, members⟩ := moments_in_order yearEnd_read
  obtain ⟨-, inOrder, -, comparisons, -⟩ := pairs newYear newYear_read
  have years : yearEnd.InOrder newYear := by
    intro a ha b hb
    cases ha
    cases hb
    exact .inr (by decide)
  refine ⟨inOrder years, comparisons .lt (.inr ⟨rfl, years⟩), members [newYear] ?_⟩
  exact List.forall_mem_singleton.mpr newYear_read

open Store.Bookcase in
/-- The day after 9999 is stored as a text that comes before all days of that year, so the event on
it is not found among the later ones. -/
theorem next_day_missed :
    Registry.build [event] [] = .ok calendar ∧
      (agenda.scope event).value .date (.string "9999-12-31") = .ok lastDay ∧
      (agenda.scope event).value .date (.string "+10000-01-01") = .ok nextDay ∧
      lastDay.cmpTime nextDay = .lt ∧
      (Value.ofScalar lastDay).cmp (.ofScalar nextDay) = .gt ∧
      agenda.compile "Event" later .null none = .ok laterPlan ∧
      twoDays.execute calendar laterPlan = .ok [] :=
  ⟨by rfl, by rfl, by rfl, by rfl, by rfl, by rfl, by rfl⟩

end Store

end FieldSearch
