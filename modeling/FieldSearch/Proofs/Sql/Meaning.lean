import FieldSearch.Proofs.Search.Meaning
import FieldSearch.Proofs.Sql.Rendering

/-!
# The meaning of a rendered condition

On every row a rendered condition has the truth value of the predicate that it was rendered from,
provided the parameters hold the operands of the predicate from its first number on.
-/

namespace FieldSearch.Sql

/-- The parameters hold these values from a number on. -/
def Supplies (params : List Value) (next : Nat) (vs : List Scalar) : Prop :=
  (List.range' next vs.length).map (Store.operand params) = vs.map Value.ofScalar

theorem supplies_append {params : List Value} {next : Nat} {vs ws : List Scalar} :
    Supplies params next (vs ++ ws) ↔
      Supplies params next vs ∧ Supplies params (next + vs.length) ws := by
  rw [Supplies, List.length_append, ← List.range'_append, Nat.one_mul, List.map_append,
    List.map_append]
  constructor
  · intro h
    exact List.append_inj h (by simp)
  · rintro ⟨hvs, hws⟩
    rw [hvs, hws]

theorem Supplies.single {params : List Value} {next : Nat} {v : Scalar}
    (h : Supplies params next [v]) : Store.operand params next = .ofScalar v :=
  (List.cons.inj h).1

/-- The operands of a plan stand at the head of its parameters. -/
theorem supplies_operands (vs : List Scalar) (rest : List Value) :
    Supplies (vs.map Value.ofScalar ++ rest) 1 vs := by
  refine List.ext_getElem (by simp) fun i hi hv => ?_
  have hlt : i < vs.length := by simpa using hi
  simp [Store.operand, List.getElem?_append_left, hlt]

/-- The frames of the root and, inside the condition on an occurrence, of one of its rows. -/
structure Binds (fs : Store.Frames) (rows : Rows) (inside : Option Occurrence) : Prop where
  root : ∀ name, fs.column ⟨rootRow, name⟩ = (rows .root).column name
  joined : ∀ o, inside = some o → ∀ name, fs.column ⟨.row o, name⟩ = (rows o).column name

theorem binds_root (rows : Rows) : Binds [(rows .root).frame rootRow] rows none :=
  ⟨Store.Frames.column_frame _ _ (by simp), by simp⟩

section Related

variable (rows : Rows) {o : Occurrence} (ho : o ≠ .root)

include ho

theorem binds_related (r : Store.Record) :
    Binds [r.frame (.row o), (rows .root).frame rootRow] (rows.bind o r) (some o) := by
  have hne : RowName.row o ≠ rootRow := fun h => ho (RowName.row.inj h)
  constructor
  · intro name
    rw [Store.Frames.column_skip _ hne, rows.bind_ne r ho.symm]
    exact (binds_root rows).root name
  · intro other hother name
    cases hother
    rw [rows.bind_self]
    exact Store.Frames.column_frame _ _ (by simpa [Store.Record.frame] using hne.symm) name

theorem binds_linked (link r : Store.Record) :
    Binds [link.frame (.link o), r.frame (.row o), (rows .root).frame rootRow] (rows.bind o r)
      (some o) := by
  have h := binds_related rows ho r
  constructor
  · intro name
    rw [Store.Frames.column_skip _ (by simp [rootRow])]
    exact h.root name
  · intro other hother name
    rw [Store.Frames.column_skip _ (by simp)]
    exact h.joined other hother name

omit ho in
theorem column_link (link r : Store.Record) (name : String) :
    Store.Frames.column [link.frame (.link o), r.frame (.row o), (rows .root).frame rootRow]
      ⟨.link o, name⟩ = link.column name :=
  Store.Frames.column_frame _ _ (by simp [Store.Record.frame, rootRow]) name

variable {rows}

/-- Related rows that are found without a table between. -/
theorem mem_related_row {s : Store} {fs : Store.Frames} {table inner outer : String} :
    fs ∈ s.related [(rows .root).frame rootRow]
        ⟨⟨table, .row o⟩, none, ⟨.row o, inner⟩, ⟨rootRow, outer⟩⟩ ↔
      ∃ r ∈ s.records table, fs = [r.frame (.row o), (rows .root).frame rootRow] ∧
        (Value.columnsEqual (r.column inner) ((rows .root).column outer) == some true) = true := by
  rw [Store.mem_related]
  refine exists_congr fun r => and_congr_right fun _ => and_congr_right fun hfs => ?_
  have binds := binds_related rows ho r
  rw [hfs, Store.Frames.joined_eq, binds.root, binds.joined o rfl, rows.bind_ne r ho.symm,
    rows.bind_self]

/-- Related rows that are found by the rows of a table between. -/
theorem mem_related_link {s : Store} {fs : Store.Frames}
    {table links key sourceColumn targetColumn outer : String} :
    fs ∈ s.related [(rows .root).frame rootRow]
        ⟨⟨links, .link o⟩, some ⟨⟨table, .row o⟩, ⟨.row o, key⟩, ⟨.link o, targetColumn⟩⟩,
          ⟨.link o, sourceColumn⟩, ⟨rootRow, outer⟩⟩ ↔
      ∃ link ∈ s.records links, ∃ r ∈ s.records table,
        fs = [link.frame (.link o), r.frame (.row o), (rows .root).frame rootRow] ∧
        (Value.columnsEqual (r.column key) (link.column targetColumn) == some true) = true ∧
        (Value.columnsEqual (link.column sourceColumn) ((rows .root).column outer) ==
          some true) = true := by
  rw [Store.mem_related_join]
  refine exists_congr fun link => and_congr_right fun _ => exists_congr fun r =>
    and_congr_right fun _ => and_congr_right fun hfs => ?_
  have binds := binds_linked rows ho link r
  rw [hfs, Store.Frames.joined_eq, Store.Frames.joined_eq, binds.joined o rfl, binds.root,
    column_link rows, column_link rows, rows.bind_self, rows.bind_ne r ho.symm]

/-- The frames of related rows bind the occurrence to a row to which the relation leads. -/
theorem related_binds (b : Binding) {s : Store} {fs : Store.Frames}
    (h : fs ∈ s.related [(rows .root).frame rootRow] (b.related o)) :
    ∃ r ∈ b.targets s (rows .root), Binds fs (rows.bind o r) (some o) := by
  cases hj : b.relation.join with
  | foreignKey column =>
    simp only [Binding.related, hj, mem_related_row ho] at h
    obtain ⟨r, hr, rfl, hlinks⟩ := h
    refine ⟨r, List.mem_filter.mpr ⟨hr, ?_⟩, binds_related rows ho r⟩
    simpa only [Binding.links, hj] using hlinks
  | reverse column =>
    simp only [Binding.related, hj, mem_related_row ho] at h
    obtain ⟨r, hr, rfl, hlinks⟩ := h
    refine ⟨r, List.mem_filter.mpr ⟨hr, ?_⟩, binds_related rows ho r⟩
    simpa only [Binding.links, hj] using hlinks
  | association table sourceColumn targetColumn =>
    simp only [Binding.related, hj, mem_related_link ho] at h
    obtain ⟨link, hlink, r, hr, rfl, htarget, hsource⟩ := h
    refine ⟨r, List.mem_filter.mpr ⟨hr, ?_⟩, binds_linked rows ho link r⟩
    simp only [Binding.links, hj, List.any_eq_true, Bool.and_eq_true]
    exact ⟨link, hlink, htarget, hsource⟩

/-- Every row to which the relation leads is among the related rows. -/
theorem exists_related (b : Binding) {s : Store} {r : Store.Record}
    (h : r ∈ b.targets s (rows .root)) :
    ∃ fs ∈ s.related [(rows .root).frame rootRow] (b.related o),
      Binds fs (rows.bind o r) (some o) := by
  obtain ⟨hr, hlinks⟩ := List.mem_filter.mp h
  cases hj : b.relation.join with
  | foreignKey column =>
    simp only [Binding.links, hj] at hlinks
    simp only [Binding.related, hj, mem_related_row ho]
    exact ⟨_, ⟨r, hr, rfl, hlinks⟩, binds_related rows ho r⟩
  | reverse column =>
    simp only [Binding.links, hj] at hlinks
    simp only [Binding.related, hj, mem_related_row ho]
    exact ⟨_, ⟨r, hr, rfl, hlinks⟩, binds_related rows ho r⟩
  | association table sourceColumn targetColumn =>
    simp only [Binding.links, hj, List.any_eq_true, Bool.and_eq_true] at hlinks
    obtain ⟨link, hlink, htarget, hsource⟩ := hlinks
    simp only [Binding.related, hj, mem_related_link ho]
    exact ⟨_, ⟨link, hlink, r, hr, rfl, htarget, hsource⟩, binds_linked rows ho link r⟩

/-- The related rows in a statement are those to which the relation leads. -/
theorem any_related_eq (b : Binding) (s : Store) {p : Store.Frames → Bool}
    {q : Store.Record → Bool}
    (h : ∀ fs r, Binds fs (rows.bind o r) (some o) → p fs = q r) :
    (s.related [(rows .root).frame rootRow] (b.related o)).any p =
      (b.targets s (rows .root)).any q := by
  rw [Bool.eq_iff_iff, List.any_eq_true, List.any_eq_true]
  constructor
  · rintro ⟨fs, hfs, hp⟩
    obtain ⟨r, hr, binds⟩ := related_binds ho b hfs
    exact ⟨r, hr, h fs r binds ▸ hp⟩
  · rintro ⟨r, hr, hq⟩
    obtain ⟨fs, hfs, binds⟩ := exists_related ho b hr
    exact ⟨fs, hfs, (h fs r binds).symm ▸ hq⟩

end Related

section Condition

variable {registry : Registry} {root : Entity} {joins : List JoinEntry} {s : Scope}
  {binding? : Occurrence → Option Binding} {st : Store} {params : List Value}

/-- The test of a relation in a statement tells whether the relation leads anywhere. -/
theorem presence_truth (rows : Rows) {o : Occurrence} (ho : o ≠ .root) (b : Binding)
    (present : Bool) :
    (b.presence o present).truth st params [(rows .root).frame rootRow] =
      some (b.leads st (rows .root) == present) := by
  have hrelated : (!(st.related [(rows .root).frame rootRow] (b.related o)).isEmpty) =
      !(b.targets st (rows .root)).isEmpty := by
    rw [Store.isEmpty_eq_any, Store.isEmpty_eq_any]
    exact any_related_eq ho b st fun _ _ _ => rfl
  have hsome : (Condition.existsAny (b.related o)).truth st params [(rows .root).frame rootRow] =
      some (!(b.targets st (rows .root)).isEmpty) := by
    rw [Condition.truth, hrelated]
  have hnone : (Condition.existsNone (b.related o)).truth st params
      [(rows .root).frame rootRow] = some (b.targets st (rows .root)).isEmpty := by
    rw [Condition.truth, ← Bool.not_inj hrelated]
  have hcolumn := (binds_root rows).root
  cases hj : b.relation.join with
  | foreignKey column =>
    cases present <;>
      simp [Binding.presence, Binding.leads, hj, Condition.truth, hcolumn, Store.Record.value]
  | reverse column =>
    cases present <;> simp [Binding.presence, Binding.leads, hj, hsome, hnone]
  | association table sourceColumn targetColumn =>
    cases present <;> simp [Binding.presence, Binding.leads, hj, hsome, hnone]

theorem Binds.column {fs : Store.Frames} {rows : Rows} {inside : Option Occurrence}
    (binds : Binds fs rows inside) {c : Column} {a : Attribute}
    (names : c.Names registry root joins inside a) :
    fs.column ⟨.row c.occurrence, c.name⟩ = rows.column c := by
  cases names with
  | root ho _ => rw [Rows.column, ho]; exact binds.root c.name
  | joined hin _ _ _ _ => exact binds.joined _ hin c.name

theorem membership_truth {fs : Store.Frames} {name : ColumnName} {next : Nat} {vs : List Scalar}
    (supplies : Supplies params next vs) :
    (membership name (List.range' next vs.length)).truth st params fs =
      Value.memberTruth (fs.column name) (vs.map Value.ofScalar) := by
  cases vs with
  | nil => rfl
  | cons v rest =>
    rw [Supplies] at supplies
    rw [← supplies]
    rfl

/-- What holds of every part with its operands supplied holds of the parts side by side. -/
theorem Numbered.supplied {motive : Nat → Predicate → Condition → Prop}
    {R : Predicate → Condition → Prop} {next : Nat} {parts : List Predicate} {cs : List Condition}
    (h : Numbered motive next parts cs)
    (supplies : Supplies params next (Predicate.allOperands parts))
    (each : ∀ part ∈ parts, ∀ next c, motive next part c → Supplies params next part.operands →
      R part c) : List.Forall₂ R parts cs := by
  induction h with
  | nil => exact .nil
  | cons hc _ ih =>
    rw [List.forall_mem_cons] at each
    rw [Predicate.allOperands, supplies_append] at supplies
    exact .cons (each.1 _ _ hc supplies.1) (ih supplies.2 each.2)

theorem truths_of_forall₂ {fs : Store.Frames} {rows : Rows} {parts : List Predicate}
    {cs : List Condition}
    (h : List.Forall₂ (fun part c => c.truth st params fs = part.truth binding? st rows) parts cs) :
    Condition.truths st params fs cs = Predicate.truths binding? st rows parts := by
  induction h with
  | nil => rfl
  | cons hc _ ih => rw [Condition.truths, Predicate.truths, hc, ih]

/-- A rendered condition means what the predicate means. -/
theorem condition_truth (fits : s.Fits registry root joins)
    (apart : ∀ e ∈ joins, e.occurrence ≠ .root)
    (agree : ∀ o ∈ joins.map (·.occurrence), ∀ b, s.binding o = .ok b → binding? o = some b)
    {p : Predicate} {next : Nat} {c : Condition} (h : condition s next p = .ok c)
    {inside : Option Occurrence} (wf : p.WellFormed registry root joins inside)
    (supplies : Supplies params next p.operands) {fs : Store.Frames} {rows : Rows}
    (binds : Binds fs rows inside)
    (outermost : inside = none → fs = [(rows .root).frame rootRow]) :
    c.truth st params fs = p.truth binding? st rows := by
  have hnot : ∀ o ∈ joins.map (·.occurrence), o ≠ .root := by simpa using apart
  -- the rows change under an occurrence, and the parameters are counted on, so both are general
  refine condition_induct (motive := fun next p c => ∀ inside,
    p.WellFormed registry root joins inside → Supplies params next p.operands →
    ∀ fs rows, Binds fs rows inside → (inside = none → fs = [(rows .root).frame rootRow]) →
    c.truth st params fs = p.truth binding? st rows)
    ?compare ?isIn ?isNull ?isNotNull ?exist ?related ?not ?and ?or p h inside wf supplies fs rows
    binds outermost
  case compare =>
    intro next column comparison v name hname inside wf supplies fs rows binds _
    cases wf with
    | compare names =>
      cases (fits.column apart names).symm.trans hname
      have hv : Store.operand params next = .ofScalar v := Supplies.single supplies
      rw [Condition.truth, Predicate.truth, binds.column names, hv]
  case isIn =>
    intro next column vs name hname inside wf supplies fs rows binds _
    cases wf with
    | isIn names =>
      cases (fits.column apart names).symm.trans hname
      have hvs : Supplies params next vs := supplies
      rw [membership_truth hvs, Predicate.truth, binds.column names]
  case isNull =>
    intro next column name hname inside wf _ fs rows binds _
    cases wf with
    | isNull names =>
      cases (fits.column apart names).symm.trans hname
      rw [Condition.truth, Predicate.truth, binds.column names]
  case isNotNull =>
    intro next column name hname inside wf _ fs rows binds _
    cases wf with
    | isNotNull names =>
      cases (fits.column apart names).symm.trans hname
      rw [Condition.truth, Predicate.truth, binds.column names]
  case exist =>
    intro next o inner b c hb ih inside wf supplies fs rows _ outermost
    cases wf with
    | exist ho hinner =>
      rw [outermost rfl, Condition.truth, Predicate.truth, agree o ho b hb]
      refine congrArg some (any_related_eq (hnot o ho) b st fun fs r binds => ?_)
      have hinside : some o = none → fs = [((rows.bind o r) .root).frame rootRow] := by
        intro hnone
        cases hnone
      rw [ih _ hinner supplies fs _ binds hinside]
  case related =>
    intro next o present b hb inside wf _ fs rows _ outermost
    cases wf with
    | related _ ho =>
      rw [outermost rfl, presence_truth rows (hnot o ho), Predicate.truth, agree o ho b hb]
  case not =>
    intro next inner c ih inside wf supplies fs rows binds outermost
    cases wf with
    | not hinner =>
      rw [Condition.truth, Predicate.truth, ih _ hinner supplies fs rows binds outermost]
  case and =>
    intro next parts cs hcs inside wf supplies fs rows binds outermost
    cases wf with
    | and _ hparts =>
      rw [Condition.truth, Predicate.truth, truths_of_forall₂ (hcs.supplied supplies _)]
      exact fun part hpart next c h supplies =>
        h inside (hparts part hpart) supplies fs rows binds outermost
  case or =>
    intro next parts cs hcs inside wf supplies fs rows binds outermost
    cases wf with
    | or _ hparts =>
      rw [Condition.truth, Predicate.truth, truths_of_forall₂ (hcs.supplied supplies _)]
      exact fun part hpart next c h supplies =>
        h inside (hparts part hpart) supplies fs rows binds outermost

end Condition

end FieldSearch.Sql
