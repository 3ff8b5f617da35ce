import FieldSearch.Proofs.Search.Canonical
import FieldSearch.Proofs.Search.Index

/-!
# Runs of a planner

A planner is asked to allocate and to look up, in any order and as often as its clients like. Its
index finds what a search of the entries finds, so its plan is the join plan of the traversals that
it was asked for, each recorded as it was first asked for. What a call is answered stands for good.
-/

namespace FieldSearch

namespace JoinPlan

variable {p : JoinPlan}

theorem Valid.lookup?_iff (valid : p.Valid) {source relation : String} {o : Occurrence} :
    p.lookup? source relation = some o ↔
      ∃ e ∈ p.entries, e.key = (source, relation) ∧ e.occurrence = o := by
  constructor
  · intro h
    obtain ⟨e, he, ho, hsource, hrelation⟩ := lookup?_eq_some h
    exact ⟨e, he, Prod.ext hsource hrelation, ho⟩
  · rintro ⟨e, he, hkey, rfl⟩
    cases hkey
    exact valid.lookup?_key he

/-- An entry is that of the first traversal with its source and relation. -/
theorem allocateAll_first {ts : List Traversal} {e : JoinEntry}
    (he : e ∈ (empty.allocateAll ts).entries) :
    ∃ t, ts.find? (·.key == e.key) = some t ∧ e.Records t := by
  induction ts using List.reverseRecOn with
  | nil => cases he
  | append_singleton ts t ih =>
    have hlast : e ∈ ((empty.allocateAll ts).allocate t).2.entries := by
      rw [allocateAll_append] at he
      exact he
    by_cases hold : e ∈ (empty.allocateAll ts).entries
    · obtain ⟨t', ht', records⟩ := ih hold
      exact ⟨t', by simp [ht'], records⟩
    · -- The entry is new with the last traversal, and none before it has the same key.
      rcases (empty.allocateAll ts).allocate_cases t with
        ⟨_, -, hp⟩ | ⟨fresh, e', records, -, hp⟩ <;> rw [hp] at hlast
      · exact absurd hlast hold
      · have hnew : e = e' := by simpa [hold] using hlast
        subst hnew
        have hkey : e.key = t.key := Prod.ext records.source records.relation
        have unseen : t.key ∉ (empty.allocateAll ts).entries.map (·.key) :=
          lookup?_eq_none.mp fresh
        rw [allocateAll_keys, List.mem_eraseDups] at unseen
        have hnone : ts.find? (·.key == e.key) = none := by
          rw [hkey, List.find?_eq_none]
          intro t' ht' h
          exact unseen (beq_iff_eq.mp h ▸ List.mem_map_of_mem ht')
        refine ⟨t, ?_, records⟩
        rw [List.find?_append, hnone]
        simp [hkey]

end JoinPlan

namespace JoinPlanner

variable {p : JoinPlanner}

/-! ### Faithful allocation -/

/-- What holds between calls. -/
structure Faithful (p : JoinPlanner) : Prop where
  numbered : ∀ i (h : i < p.plan.entries.length), p.plan.entries[i].occurrence.id.toNat = i + 1
  distinct : (p.plan.entries.map (·.key)).Nodup
  found : ∀ source relation o, p.lookup? source relation = some o ↔
    ∃ e ∈ p.plan.entries, e.key = (source, relation) ∧ e.occurrence = o
  apart : ∀ source relation, p.lookup? source relation ≠ some .root

/-- What a call is answered, and what it leaves. -/
inductive Answers : JoinPlanner → Call → Option Occurrence → JoinPlanner → Prop
  | lookup (p : JoinPlanner) (source relation : String) :
    Answers p (.lookup source relation) (p.lookup? source relation) p
  | known {p : JoinPlanner} {t : Traversal} {e : JoinEntry} (he : e ∈ p.plan.entries)
    (key : e.key = t.key) : Answers p (.allocate t) (some e.occurrence) p
  | fresh {p p' : JoinPlanner} {t : Traversal} {e : JoinEntry}
    (new : t.key ∉ p.plan.entries.map (·.key)) (records : e.Records t)
    (unused : e.occurrence ∉ p.plan.entries.map (·.occurrence)) (apart : e.occurrence ≠ .root)
    (entries : p'.plan.entries = p.plan.entries ++ [e]) :
    Answers p (.allocate t) (some e.occurrence) p'

/-- Nothing that is there is changed. -/
structure Keeps (p p' : JoinPlanner) : Prop where
  entries : p.plan.entries <+: p'.plan.entries
  occurrences : ∀ source relation o, p.lookup? source relation = some o →
    p'.lookup? source relation = some o

theorem Indexed.faithful (indexed : p.Indexed) (valid : p.plan.Valid)
    (size : p.plan.entries.length < UInt32.size) : p.Faithful where
  numbered i h := by
    have hnumber := congrArg (·[i]?) (valid.numbers size)
    simpa [h, Nat.add_comm] using hnumber
  distinct := valid.distinct
  found source relation o := by rw [indexed, valid.lookup?_iff]
  apart source relation h := by
    rw [indexed] at h
    obtain ⟨e, he, -, ho⟩ := valid.lookup?_iff.mp h
    exact (valid.occurrences_distinct size).2 e he ho

theorem Indexed.answers (indexed : p.Indexed) (valid : p.plan.Valid) (call : Call)
    (size : (p.step call).2.plan.entries.length < UInt32.size) :
    Answers p call (p.step call).1 (p.step call).2 := by
  cases call with
  | lookup source relation => exact .lookup p source relation
  | allocate t =>
    obtain ⟨hanswer, hplan, -⟩ := indexed.allocate t
    have valid' := JoinPlan.allocate_valid valid t
    simp only [JoinPlanner.step] at size ⊢
    rw [hanswer]
    rcases p.plan.allocate_cases t with ⟨o, known, h⟩ | ⟨fresh, e, records, ho, h⟩
    · obtain ⟨e, he, hkey, rfl⟩ := valid.lookup?_iff.mp known
      have hsame : p.allocate t = (e.occurrence, p) := by
        rw [JoinPlanner.allocate, indexed, known]
      rw [hsame, h]
      exact .known he hkey
    · rw [h] at hplan valid' ⊢
      rw [hplan] at size
      obtain ⟨occurrences, apart⟩ := valid'.occurrences_distinct size
      rw [List.map_append, List.map_singleton, List.nodup_append] at occurrences
      rw [← ho]
      refine .fresh (JoinPlan.lookup?_eq_none.mp fresh) records ?_ (apart e (by simp))
        (congrArg JoinPlan.entries hplan)
      intro h
      exact occurrences.2.2 _ h _ (List.mem_singleton_self _) rfl

theorem Indexed.keeps (indexed : p.Indexed) (calls : List Call) : Keeps p (p.run calls) := by
  obtain ⟨hindexed, hplan⟩ := indexed.run calls
  have longer : p.plan.entries <+: (p.run calls).plan.entries := by
    rw [hplan]
    exact p.plan.allocateAll_prefix _
  refine ⟨longer, fun source relation o h => ?_⟩
  rw [indexed] at h
  rw [hindexed]
  exact JoinPlan.lookup?_of_prefix longer h

/-- A planner that is asked for no more traversals than 32 bits can number is faithful after every
call, records each traversal as it was first asked for, and keeps what there is. -/
theorem calls_served_faithfully {calls : List Call}
    (few : ((Call.traversals calls).map (·.key)).eraseDups.length < UInt32.size) :
    (∀ before, before <+: calls → (empty.run before).Faithful ∧
      (∀ e ∈ (empty.run before).plan.entries,
        ∃ t, (Call.traversals before).find? (·.key == e.key) = some t ∧ e.Records t) ∧
      Keeps (empty.run before) (empty.run calls)) ∧
    ∀ before call, before ++ [call] <+: calls →
      Answers (empty.run before) call ((empty.run before).step call).1
        (empty.run (before ++ [call])) := by
  have valid (before : List Call) : (empty.run before).plan.Valid := by
    rw [run_plan]
    exact JoinPlan.allocateAll_valid JoinPlan.valid_empty _
  have keeps {before : List Call} (h : before <+: calls) :
      Keeps (empty.run before) (empty.run calls) := by
    obtain ⟨after, rfl⟩ := h
    rw [run_append]
    exact (run_indexed before).keeps after
  -- A plan only grows, so that the bound on all calls is one on each beginning of them.
  have size {before : List Call} (h : before <+: calls) :
      (empty.run before).plan.entries.length < UInt32.size := by
    have hall : (empty.run calls).plan.entries.length < UInt32.size := by
      rw [run_plan, ← List.length_map, JoinPlan.allocateAll_keys]
      exact few
    exact Nat.lt_of_le_of_lt (keeps h).entries.length_le hall
  constructor
  · intro before h
    refine ⟨(run_indexed before).faithful (valid before) (size h), ?_, keeps h⟩
    rw [run_plan]
    exact fun e => JoinPlan.allocateAll_first
  · intro before call h
    have hstep : empty.run (before ++ [call]) = ((empty.run before).step call).2 :=
      run_append empty before [call]
    have hsize := size h
    rw [hstep] at hsize ⊢
    exact (run_indexed before).answers (valid before) call hsize

namespace Trace

/-- A relation is asked for again, with another target and cardinality. -/
def calls : List Call :=
  [.lookup "Form" "files", .allocate ⟨"Form", .toMany "files" "File" "form_id"⟩,
    .allocate ⟨"Form", .toOne "files" "Person" "enterer_id"⟩,
    .allocate ⟨"File", .toMany "files" "File" "parent_id"⟩, .lookup "Form" "files"]

end Trace

theorem repeated_relation_answered :
    ((Call.traversals Trace.calls).map (·.key)).eraseDups.length < UInt32.size ∧
    (empty.run Trace.calls).plan.entries =
      [⟨⟨1⟩, "Form", "files", "File", .toMany⟩, ⟨⟨2⟩, "File", "files", "File", .toMany⟩] ∧
    (empty.run Trace.calls).lookup? "Form" "files" = some ⟨1⟩ ∧
    (empty.run Trace.calls).Faithful := by
  have few : ((Call.traversals Trace.calls).map (·.key)).eraseDups.length < UInt32.size := by
    decide
  obtain ⟨faithful, -⟩ := (calls_served_faithfully few).1 Trace.calls List.prefix_rfl
  have entries : (empty.run Trace.calls).plan.entries =
      [⟨⟨1⟩, "Form", "files", "File", .toMany⟩, ⟨⟨2⟩, "File", "files", "File", .toMany⟩] := by
    rw [run_plan]
    rfl
  refine ⟨few, entries, (faithful.found _ _ _).mpr ?_, faithful⟩
  exact ⟨⟨⟨1⟩, "Form", "files", "File", .toMany⟩, by simp [entries], rfl, rfl⟩

end JoinPlanner

end FieldSearch
