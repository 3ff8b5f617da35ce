import FieldSearch.Search.Join
import Mathlib.Data.List.Nodup

/-!
# Allocation of occurrences

A join plan numbers its occurrences from 1 on and has one entry for each traversal that has been
asked for. A traversal keeps its occurrence in every plan that is made from the plan.
-/

namespace FieldSearch

/-- What tells the joins of a plan apart. -/
def JoinEntry.key (e : JoinEntry) : String × String := (e.source, e.relation)

def Traversal.key (t : Traversal) : String × String := (t.source, t.relation.name)

namespace JoinEntry

/-- The entry is the one of a traversal. -/
structure Records (e : JoinEntry) (t : Traversal) : Prop where
  source : e.source = t.source
  relation : e.relation = t.relation.name
  target : e.target = t.relation.target
  cardinality : e.cardinality = t.relation.cardinality

end JoinEntry

namespace JoinPlan

/-- The occurrence of the entry at a place. -/
def numbered (place : Nat) : Occurrence := ⟨UInt32.ofNat (place + 1)⟩

structure Valid (p : JoinPlan) : Prop where
  occurrences : p.entries.map (·.occurrence) = (List.range p.entries.length).map numbered
  distinct : (p.entries.map fun e => (e.source, e.relation)).Nodup

/-- The plan has an occurrence for the traversal. -/
def Has (p : JoinPlan) (t : Traversal) : Prop := (p.lookup? t.source t.relation.name).isSome

theorem next_eq (p : JoinPlan) : p.next = numbered p.entries.length := by
  simp [next, numbered, UInt32.ofNat_add]

theorem numbered_injective {i j : Nat} (hi : i + 1 < UInt32.size) (hj : j + 1 < UInt32.size)
    (h : numbered i = numbered j) : i = j := by
  have hid := congrArg (·.id.toNat) h
  simp only [numbered, UInt32.toNat_ofNat_of_lt' hi, UInt32.toNat_ofNat_of_lt' hj] at hid
  omega

theorem numbered_ne_root {i : Nat} (hi : i + 1 < UInt32.size) : numbered i ≠ .root := by
  intro h
  have hid := congrArg (·.id.toNat) h
  simp only [numbered, Occurrence.root, UInt32.toNat_ofNat_of_lt' hi] at hid
  cases hid

theorem valid_empty : empty.Valid := ⟨rfl, .nil⟩

theorem lookup?_eq_none {p : JoinPlan} {source relation : String} :
    p.lookup? source relation = none ↔
      (source, relation) ∉ p.entries.map fun e => (e.source, e.relation) := by
  simp [lookup?, List.find?_eq_none]

theorem lookup?_eq_some {p : JoinPlan} {source relation : String} {o : Occurrence}
    (h : p.lookup? source relation = some o) :
    ∃ e ∈ p.entries, e.occurrence = o ∧ e.source = source ∧ e.relation = relation := by
  simp only [lookup?, Option.map_eq_some_iff] at h
  obtain ⟨e, he, ho⟩ := h
  have hnames := List.find?_some he
  simp only [Bool.and_eq_true, beq_iff_eq] at hnames
  exact ⟨e, List.mem_of_find?_eq_some he, ho, hnames⟩

/-- What an allocation does: nothing if the traversal is known, else one more entry. -/
theorem allocate_cases (p : JoinPlan) (t : Traversal) :
    (∃ o, p.lookup? t.source t.relation.name = some o ∧ p.allocate t = (o, p)) ∨
    (p.lookup? t.source t.relation.name = none ∧ ∃ e : JoinEntry, e.Records t ∧
      e.occurrence = p.next ∧ p.allocate t = (p.next, ⟨p.entries ++ [e]⟩)) := by
  cases h : p.lookup? t.source t.relation.name with
  | some o => exact .inl ⟨o, rfl, by simp only [allocate, h]⟩
  | none =>
    refine .inr ⟨rfl, ⟨p.next, t.source, t.relation.name, t.relation.target,
      t.relation.cardinality⟩, ⟨rfl, rfl, rfl, rfl⟩, rfl, ?_⟩
    simp only [allocate, h]

theorem allocate_valid {p : JoinPlan} (valid : p.Valid) (t : Traversal) :
    (p.allocate t).2.Valid := by
  rcases p.allocate_cases t with ⟨o, -, h⟩ | ⟨fresh, e, records, ho, h⟩
  · rw [h]
    exact valid
  · rw [h]
    constructor
    · simp [valid.occurrences, ho, next_eq, List.range_succ]
    · have hnew := lookup?_eq_none.mp fresh
      rw [← records.source, ← records.relation] at hnew
      simp only [List.map_append, List.map_cons, List.map_nil]
      rw [List.nodup_append]
      refine ⟨valid.distinct, by simp, ?_⟩
      rintro a ha b hb rfl
      exact hnew (List.mem_singleton.mp hb ▸ ha)

theorem allocate_prefix (p : JoinPlan) (t : Traversal) :
    p.entries <+: (p.allocate t).2.entries := by
  rcases p.allocate_cases t with ⟨_, -, h⟩ | ⟨-, _, -, -, h⟩ <;> simp [h]

/-- With more entries after those there are, each occurrence is still found. -/
theorem lookup?_of_prefix {p p' : JoinPlan} (longer : p.entries <+: p'.entries)
    {source relation : String} {o : Occurrence} (h : p.lookup? source relation = some o) :
    p'.lookup? source relation = some o := by
  obtain ⟨more, hmore⟩ := longer
  simp only [lookup?, Option.map_eq_some_iff] at h ⊢
  obtain ⟨e, he, ho⟩ := h
  exact ⟨e, by simp [← hmore, List.find?_append, he], ho⟩

/-- An occurrence is kept for good. -/
theorem allocate_keeps {p : JoinPlan} (t : Traversal) {source relation : String} {o : Occurrence}
    (h : p.lookup? source relation = some o) :
    (p.allocate t).2.lookup? source relation = some o :=
  lookup?_of_prefix (p.allocate_prefix t) h

theorem lookup?_allocate (p : JoinPlan) (t : Traversal) :
    (p.allocate t).2.lookup? t.source t.relation.name = some (p.allocate t).1 := by
  rcases p.allocate_cases t with ⟨o, h, hp⟩ | ⟨fresh, e, records, ho, hp⟩
  · rw [hp]
    exact h
  · rw [hp]
    have hnone : p.entries.find? (fun e =>
        e.source == t.source && e.relation == t.relation.name) = none := by
      simpa [lookup?] using fresh
    simp [lookup?, List.find?_append, hnone, records.source, records.relation, ho]

theorem allocate_length (p : JoinPlan) (t : Traversal) :
    (p.allocate t).2.entries.length ≤ p.entries.length + 1 := by
  rcases p.allocate_cases t with ⟨_, -, hp⟩ | ⟨-, _, -, -, hp⟩ <;> simp [hp]

theorem mem_allocate {p : JoinPlan} {t : Traversal} {e : JoinEntry}
    (he : e ∈ (p.allocate t).2.entries) : e ∈ p.entries ∨ e.Records t := by
  rcases p.allocate_cases t with ⟨_, -, hp⟩ | ⟨-, e', records, -, hp⟩
  · rw [hp] at he
    exact .inl he
  · rw [hp] at he
    rcases List.mem_append.mp he with he | he
    · exact .inl he
    · exact .inr (List.mem_singleton.mp he ▸ records)

/-- A known traversal is given its occurrence, and the plan stays as it is. -/
theorem Has.allocate {p : JoinPlan} {t : Traversal} (h : p.Has t) :
    ∃ o, p.lookup? t.source t.relation.name = some o ∧ p.allocate t = (o, p) := by
  rcases p.allocate_cases t with known | ⟨fresh, -⟩
  · exact known
  · simp [Has, fresh] at h

theorem has_allocate (p : JoinPlan) (t : Traversal) : (p.allocate t).2.Has t := by
  simp [Has, lookup?_allocate]

theorem Has.keep {p : JoinPlan} {t : Traversal} (h : p.Has t) (t' : Traversal) :
    (p.allocate t').2.Has t := by
  obtain ⟨o, ho⟩ := Option.isSome_iff_exists.mp h
  simp [Has, allocate_keeps t' ho]

theorem allocateAll_cons (p : JoinPlan) (t : Traversal) (ts : List Traversal) :
    p.allocateAll (t :: ts) = (p.allocate t).2.allocateAll ts := rfl

theorem allocateAll_append (p : JoinPlan) (ts us : List Traversal) :
    p.allocateAll (ts ++ us) = (p.allocateAll ts).allocateAll us := List.foldl_append

theorem allocateAll_valid {p : JoinPlan} (valid : p.Valid) (ts : List Traversal) :
    (p.allocateAll ts).Valid := by
  induction ts generalizing p with
  | nil => exact valid
  | cons t rest ih => exact ih (allocate_valid valid t)

theorem allocateAll_prefix (p : JoinPlan) (ts : List Traversal) :
    p.entries <+: (p.allocateAll ts).entries := by
  induction ts generalizing p with
  | nil => exact List.prefix_rfl
  | cons t rest ih => exact (p.allocate_prefix t).trans (ih _)

theorem Has.keepAll {p : JoinPlan} {t : Traversal} (h : p.Has t) (ts : List Traversal) :
    (p.allocateAll ts).Has t := by
  induction ts generalizing p with
  | nil => exact h
  | cons t' rest ih => exact ih (h.keep t')

theorem has_allocateAll (p : JoinPlan) {ts : List Traversal} {t : Traversal} (ht : t ∈ ts) :
    (p.allocateAll ts).Has t := by
  induction ts generalizing p with
  | nil => cases ht
  | cons t' rest ih =>
    rcases List.mem_cons.mp ht with rfl | ht
    · exact (has_allocate p t).keepAll rest
    · exact ih _ ht

theorem allocateAll_length (p : JoinPlan) (ts : List Traversal) :
    (p.allocateAll ts).entries.length ≤ p.entries.length + ts.length := by
  induction ts generalizing p with
  | nil => exact Nat.le_refl _
  | cons t rest ih =>
    have first := p.allocate_length t
    have others := ih (p.allocate t).2
    rw [allocateAll_cons, List.length_cons]
    omega

theorem mem_allocateAll {p : JoinPlan} {ts : List Traversal} {e : JoinEntry}
    (he : e ∈ (p.allocateAll ts).entries) : e ∈ p.entries ∨ ∃ t ∈ ts, e.Records t := by
  induction ts generalizing p with
  | nil => exact .inl he
  | cons t rest ih =>
    rcases ih he with he | ⟨t', ht', records⟩
    · rcases mem_allocate he with he | records
      · exact .inl he
      · exact .inr ⟨t, List.mem_cons_self, records⟩
    · exact .inr ⟨t', List.mem_cons_of_mem t ht', records⟩

/-- The numbers of a plan that 32 bits can count are distinct, and none is that of the root. -/
theorem Valid.occurrences_distinct {p : JoinPlan} (valid : p.Valid)
    (size : p.entries.length < UInt32.size) :
    (p.entries.map (·.occurrence)).Nodup ∧ ∀ e ∈ p.entries, e.occurrence ≠ .root := by
  rw [valid.occurrences]
  constructor
  · refine List.Nodup.map_on ?_ List.nodup_range
    intro i hi j hj h
    rw [List.mem_range] at hi hj
    exact numbered_injective (by omega) (by omega) h
  · intro e he
    have hmem : e.occurrence ∈ p.entries.map (·.occurrence) := List.mem_map_of_mem he
    rw [valid.occurrences] at hmem
    obtain ⟨i, hi, ho⟩ := List.mem_map.mp hmem
    rw [List.mem_range] at hi
    exact ho ▸ numbered_ne_root (by omega)

end JoinPlan

end FieldSearch
