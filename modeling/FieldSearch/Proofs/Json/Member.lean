import FieldSearch.Proofs.Json.Arrangement

/-!
# Members of objects

What is found under a key after members have been deleted or changed, as long as no key stands
twice, as in every value in canonical form. A member that may be spelled in two ways is chosen by
presence: what stands under the first spelling counts, null or not.
-/

namespace FieldSearch.Json

variable {members : List (String × Json)}

/-- If the value is an object, no key stands twice in it. -/
def Keyed : Json → Prop
  | object members => Distinct members
  | _ => True

/-- The member with this key, null if there is none. -/
def member (key : String) (j : Json) : Json := (j.get? key).getD .null

/-- Delete the members that are null. -/
def withoutNulls : Json → Json
  | object members => object (members.filter fun m => !m.2.isNull)
  | j => j

/-- Delete the member with this key. -/
def without (key : String) : Json → Json
  | object members => object (members.filter (·.1 != key))
  | j => j

/-- Change the member with this key. -/
def mapMember (key : String) (f : Json → Json) : Json → Json
  | object members => object (members.map fun m => if m.1 = key then (m.1, f m.2) else m)
  | j => j

/-! ### Canonical values -/

/-- The keys stand in increasing order. -/
def Ordered (members : List (String × Json)) : Prop := members.Pairwise (·.1 < ·.1)

theorem Ordered.distinct (ordered : Ordered members) : Distinct members := by
  rw [Distinct, List.Nodup, List.pairwise_map]
  exact ordered.imp String.ne_of_lt

theorem insertMember_ordered (key : String) (value : Json) (ordered : Ordered members) :
    Ordered (insertMember key value members) := by
  induction members with
  | nil => exact List.pairwise_singleton _ _
  | cons first rest ih =>
    obtain ⟨k, v⟩ := first
    obtain ⟨before, others⟩ := List.pairwise_cons.mp ordered
    rw [insertMember]
    split
    next hlt =>
      refine List.pairwise_cons.mpr ⟨fun m hm => ?_, ordered⟩
      rcases List.mem_cons.mp hm with rfl | hm
      · exact hlt
      · exact String.lt_trans hlt (before m hm)
    next hge =>
      split
      next => exact List.pairwise_cons.mpr ⟨before, others⟩
      next hne =>
        have hlt : k < key := by
          refine String.not_le.mp fun hle => hne (String.le_antisymm hle ?_)
          exact String.not_lt.mp hge
        refine List.pairwise_cons.mpr ⟨fun m hm => ?_, ih others⟩
        rcases mem_insertMember hm with rfl | hm
        · exact hlt
        · exact before m hm

theorem canonicalMembers_ordered {sorted : List (String × Json)} (ordered : Ordered sorted)
    (members : List (String × Json)) : Ordered (canonicalMembers sorted members) := by
  induction members generalizing sorted with
  | nil => exact ordered
  | cons first rest ih => exact ih (insertMember_ordered _ _ ordered)

theorem keyed_canonical (j : Json) : j.canonical.Keyed := by
  cases j with
  | object members => exact (canonicalMembers_ordered .nil members).distinct
  | _ => trivial

/-- The members of a canonical value are canonical. -/
theorem member_canonical (key : String) (j : Json) :
    ∃ value : Json, j.canonical.member key = value.canonical := by
  cases j with
  | object members =>
    have hmember : (object members).canonical.member key =
        ((canonicalMembers [] members).lookup key).getD .null := by
      rw [canonical]
      rfl
    cases h : (canonicalMembers [] members).lookup key with
    | none => exact ⟨.null, by rw [hmember, h]; rfl⟩
    | some value =>
      obtain ⟨before, after, hsplit, -⟩ := List.lookup_eq_some_iff.mp h
      have hmem : (key, value) ∈ canonicalMembers [] members := by simp [hsplit]
      obtain hnil | ⟨m, -, hm⟩ := mem_canonicalMembers hmem
      · cases hnil
      · exact ⟨m.2, by rw [hmember, h, ← hm]; rfl⟩
  | _ => exact ⟨.null, rfl⟩

/-! ### What is found -/

theorem lookup_filter (distinct : Distinct members) (keep : Json → Bool) (key : String) :
    (members.filter fun m => keep m.2).lookup key = (members.lookup key).filter keep := by
  induction members with
  | nil => rfl
  | cons first rest ih =>
    obtain ⟨k, value⟩ := first
    obtain ⟨absent, others⟩ : k ∉ rest.map (·.1) ∧ Distinct rest := List.nodup_cons.mp distinct
    have ih := ih others
    by_cases hkey : key = k
    · -- Where this member goes, no second one with its key comes to light.
      subst hkey
      have hnone : rest.lookup key = none := by
        rw [List.lookup_eq_none_iff]
        intro m hm
        simpa using fun heq : key = m.1 => absent (heq ▸ List.mem_map_of_mem hm)
      cases hkeep : keep value <;> simp [hkeep, ih, hnone, Option.filter]
    · have hne : (key == k) = false := beq_false_of_ne hkey
      cases hkeep : keep value <;> simp [hkeep, List.lookup_cons, hne, ih]

variable {j : Json}

theorem get?_withoutNulls (keyed : j.Keyed) (key : String) :
    j.withoutNulls.get? key = j.getNonNull? key := by
  cases j with
  | object members => exact lookup_filter keyed (!·.isNull) key
  | _ => rfl

theorem getD_nonNull (value : Option Json) :
    (value.filter (!·.isNull)).getD .null = value.getD .null := by
  cases value with
  | none => rfl
  | some v => cases v <;> rfl

theorem member_withoutNulls (keyed : j.Keyed) (key : String) :
    j.withoutNulls.member key = j.member key := by
  rw [member, get?_withoutNulls keyed, getNonNull?, getD_nonNull, member]

theorem getNonNull?_withoutNulls (keyed : j.Keyed) (key : String) :
    j.withoutNulls.getNonNull? key = j.getNonNull? key := by
  rw [getNonNull?, get?_withoutNulls keyed, getNonNull?, Option.filter_filter]
  simp

theorem get?_without (key k : String) (j : Json) :
    (j.without key).get? k = if k = key then none else j.get? k := by
  cases j with
  | object members =>
    rw [without, get?, get?]
    by_cases hk : k = key
    · rw [if_pos hk, List.lookup_eq_none_iff]
      intro m hm
      have hkept : m.1 ≠ key := by simpa using (List.mem_filter.mp hm).2
      simpa [hk] using hkept.symm
    · rw [if_neg hk]
      induction members with
      | nil => rfl
      | cons first rest ih =>
        by_cases hdeleted : first.1 = key
        · have hne : (k == first.1) = false := beq_false_of_ne (hdeleted ▸ hk)
          rw [List.filter_cons_of_neg (by simp [hdeleted]), List.lookup_cons, hne, ih]
        · rw [List.filter_cons_of_pos (by simp [hdeleted]), List.lookup_cons, List.lookup_cons, ih]
  | _ => simp [without, get?]

theorem get?_mapMember (key k : String) (f : Json → Json) (j : Json) :
    (j.mapMember key f).get? k = if k = key then (j.get? k).map f else j.get? k := by
  cases j with
  | object members =>
    rw [mapMember, get?, get?]
    induction members with
    | nil => simp
    | cons first rest ih =>
      obtain ⟨k', value⟩ := first
      have hfirst : (if k' = key then (k', f value) else (k', value)) =
          (k', if k' = key then f value else value) := by
        split <;> rfl
      rw [List.map_cons, hfirst, List.lookup_cons, List.lookup_cons, ih]
      cases hk : k == k' with
      | false => rfl
      | true =>
        cases eq_of_beq hk
        simp only [Option.map_some]
        split <;> rfl
  | _ => simp [mapMember, get?]

theorem member_mapMember {f : Json → Json} (null : f .null = .null) (key : String) (j : Json) :
    (j.mapMember key f).member key = f (j.member key) := by
  rw [member, get?_mapMember, if_pos rfl, member]
  cases j.get? key with
  | none => exact null.symm
  | some value => rfl

theorem member_mapMember_ne {key k : String} (h : k ≠ key) (f : Json → Json) (j : Json) :
    (j.mapMember key f).member k = j.member k := by
  rw [member, get?_mapMember, if_neg h, member]

theorem Keyed.mapMember (keyed : j.Keyed) (key : String) (f : Json → Json) :
    (j.mapMember key f).Keyed := by
  cases j with
  | object members =>
    have same : (members.map fun m => if m.1 = key then (m.1, f m.2) else m).map (·.1) =
        members.map (·.1) := by
      rw [List.map_map]
      refine List.map_congr_left fun m _ => ?_
      simp only [Function.comp_apply]
      split <;> rfl
    rw [Json.mapMember, Keyed, Distinct, same]
    exact keyed
  | _ => trivial

theorem Keyed.without (keyed : j.Keyed) (key : String) : (j.without key).Keyed := by
  cases j with
  | object members => exact keyed.sublist (List.filter_sublist.map _)
  | _ => trivial

/-! ### Two spellings of a key -/

/-- The member under the first spelling; under the other one if it is missing. -/
def spelled? (first other : String) (j : Json) : Option Json := (j.get? first).or (j.get? other)

/-- Delete the member under the other spelling if there is one under the first. -/
def settle (first other : String) (j : Json) : Json :=
  if (j.get? first).isSome then j.without other else j

/-- No null under the first spelling stands before a value under the other. -/
def HidesNothing (first other : String) (j : Json) : Prop :=
  j.get? first = some .null → j.getNonNull? other = none

variable {first other : String}

theorem spelled?_withoutNulls (keyed : j.Keyed) (h : j.HidesNothing first other) :
    j.withoutNulls.spelled? first other = (j.spelled? first other).filter (!·.isNull) := by
  rw [spelled?, get?_withoutNulls keyed, get?_withoutNulls keyed, spelled?, getNonNull?]
  cases hfirst : j.get? first with
  | none => rfl
  | some value =>
    cases value with
    | null =>
      rw [h hfirst]
      rfl
    | _ => rfl

theorem settle_get?_ne {key : String} (h : key ≠ other) (j : Json) :
    (j.settle first other).get? key = j.get? key := by
  rw [settle]
  split
  · rw [get?_without, if_neg h]
  · rfl

theorem spelled?_settle (different : first ≠ other) (j : Json) :
    (j.settle first other).spelled? first other = j.spelled? first other := by
  rw [spelled?, settle_get?_ne different, spelled?]
  cases hfirst : j.get? first with
  | none => simp [settle, hfirst]
  | some value => simp

/-- Where the other spelling is deleted, it hides nothing. -/
theorem settle_hidesNothing (different : first ≠ other) (j : Json) :
    (j.settle first other).HidesNothing first other := by
  intro h
  rw [settle_get?_ne different] at h
  simp [settle, h, getNonNull?, get?_without]

theorem Keyed.settle (keyed : j.Keyed) (first other : String) : (j.settle first other).Keyed := by
  rw [Json.settle]
  split
  · exact keyed.without other
  · exact keyed

end FieldSearch.Json
