import FieldSearch.Json.Record
import Mathlib.Data.List.Nodup
import Mathlib.Data.List.Perm.Basic

/-!
# Members in another order

The order of the members of an object carries no meaning as long as no key stands twice: a record
is read alike from every arrangement of its members. Writing the members as they come and putting
them in canonical order are two arrangements.
-/

namespace FieldSearch.Json

variable {α β : Type}

/-! ### Fields -/

/-- No key stands twice. -/
def Distinct (members : List (String × Json)) : Prop := (members.map (·.1)).Nodup

variable {members members' : List (String × Json)} {name : String}

theorem Distinct.perm (distinct : Distinct members) (perm : members'.Perm members) :
    Distinct members' :=
  (perm.map _).nodup_iff.mpr distinct

/-- A key that does not stand twice has one member at most. -/
theorem Distinct.filter_length (distinct : Distinct members) (name : String) :
    (members.filter (·.1 == name)).length ≤ 1 := by
  have hlength : (members.filter (·.1 == name)).length = (members.map (·.1)).count name := by
    rw [List.count, List.countP_map, List.countP_eq_length_filter]
    rfl
  rw [hlength]
  exact List.nodup_iff_count_le_one.mp distinct name

theorem field?_of_mem (distinct : Distinct members) {value : Json} (h : (name, value) ∈ members) :
    field? members name = some (some value) := by
  have hone := distinct.filter_length name
  have hmem : (name, value) ∈ members.filter (·.1 == name) :=
    List.mem_filter.mpr ⟨h, beq_self_eq_true name⟩
  rw [field?]
  generalize members.filter (·.1 == name) = found at hone hmem
  match found with
  | [] => cases hmem
  | [member] =>
    cases List.mem_singleton.mp hmem
    rfl
  | _ :: _ :: _ => simp at hone

theorem field?_perm (distinct : Distinct members) (perm : members'.Perm members) (name : String) :
    field? members' name = field? members name := by
  have hperm := perm.filter (·.1 == name)
  have hone := distinct.filter_length name
  have heq : members'.filter (·.1 == name) = members.filter (·.1 == name) := by
    generalize members.filter (·.1 == name) = found at hperm hone ⊢
    match found with
    | [] => exact hperm.eq_nil
    | [_] => exact hperm.eq_singleton
    | _ :: _ :: _ => simp at hone
  rw [field?, field?, heq]

theorem field?_map (f : Json → Json) (members : List (String × Json)) (name : String) :
    field? (members.map (Prod.map id f)) name = (field? members name).map (Option.map f) := by
  have hfilter : (members.map (Prod.map id f)).filter (·.1 == name) =
      (members.filter (·.1 == name)).map (Prod.map id f) := by
    rw [List.filter_map]
    rfl
  rw [field?, field?, hfilter]
  generalize members.filter (·.1 == name) = found
  match found with
  | [] => rfl
  | [_] => rfl
  | _ :: _ :: _ => rfl

theorem mapM_map_option {γ : Type} (h : α → Option β) (g : β → γ) (as : List α) :
    (as.mapM fun a => (h a).map g) = (as.mapM h).map (List.map g) := by
  induction as with
  | nil => rfl
  | cons a rest ih =>
    simp only [List.mapM_cons, ih]
    cases h a with
    | none => rfl
    | some b => cases rest.mapM h <;> rfl

variable {f : Json → Json} (distinct : Distinct members)
  (perm : members'.Perm (members.map (Prod.map id f)))

include distinct perm

theorem field?_arranged (name : String) :
    field? members' name = (field? members name).map (Option.map f) := by
  have distinct' : Distinct (members.map (Prod.map id f)) := by
    rw [Distinct, List.map_map]
    exact distinct
  rw [field?_perm distinct' perm, field?_map]

/-- The fields of a record are those of the members in another order. -/
theorem fields?_arranged (names : List String) :
    (object members').fields? names =
      ((object members).fields? names).map (List.map (Option.map f)) := by
  rw [fields?, fields?, funext (field?_arranged distinct perm), mapM_map_option]

omit distinct perm

/-- The fields of a record by the keys of its members are the values of these. -/
theorem fields?_keys (distinct : Distinct members) :
    (object members).fields? (members.map (·.1)) = some (members.map fun m => some m.2) := by
  have part : ∀ found : List (String × Json), (∀ m ∈ found, m ∈ members) →
      (found.map (·.1)).mapM (field? members) = some (found.map fun m => some m.2) := by
    intro found known
    induction found with
    | nil => rfl
    | cons first rest ih =>
      rw [List.forall_mem_cons] at known
      simp [field?_of_mem distinct known.1, ih known.2]
  exact part members fun _ => id

/-- A field that may be missing is read back, as long as nothing is written as null. -/
theorem option?_map {read : Json → Option α} {write : α → Json} (notNull : read null = none)
    (each : ∀ a, read (write a) = some a) (o : Option α) :
    option? read (o.map write) = some o := by
  cases o with
  | none => rfl
  | some a =>
    have hread := each a
    rw [Option.map_some]
    cases hwrite : write a with
    | null =>
      rw [hwrite, notNull] at hread
      cases hread
    | _ =>
      rw [hwrite] at hread
      rw [option?, hread, Option.map_some]
      simp

/-! ### Nesting -/

theorem depth_le_depthItems {items : List Json} {item : Json} (h : item ∈ items) :
    item.depth ≤ depthItems items := by
  induction items with
  | nil => cases h
  | cons first rest ih =>
    rw [depthItems]
    rcases List.mem_cons.mp h with rfl | h
    · exact Nat.le_max_left _ _
    · exact Nat.le_trans (ih h) (Nat.le_max_right _ _)

theorem depth_le_depthMembers {member : String × Json} (h : member ∈ members) :
    member.2.depth ≤ depthMembers members := by
  induction members with
  | nil => cases h
  | cons first rest ih =>
    obtain ⟨key, value⟩ := first
    rw [depthMembers]
    rcases List.mem_cons.mp h with rfl | h
    · exact Nat.le_max_left _ _
    · exact Nat.le_trans (ih h) (Nat.le_max_right _ _)

/-! ### Arrangements -/

/-- A way to put the members of objects in some order, with all else as it is. -/
structure Arrangement (f : Json → Json) : Prop where
  null : f null = null
  bool : ∀ b, f (bool b) = bool b
  int : ∀ n, f (int n) = int n
  float : ∀ x, f (float x) = float x
  string : ∀ s, f (string s) = string s
  array : ∀ items, f (array items) = array (items.map f)
  object : ∀ members, Distinct members →
    ∃ members', f (object members) = object members' ∧
      members'.Perm (members.map (Prod.map id f))

theorem arrangement_id : Arrangement id where
  null := rfl
  bool _ := rfl
  int _ := rfl
  float _ := rfl
  string _ := rfl
  array items := by rw [List.map_id]; rfl
  object members _ := ⟨members, rfl, by rw [Prod.map_id, List.map_id]⟩

theorem canonicalItems_eq (items : List Json) : canonicalItems items = items.map canonical := by
  induction items with
  | nil => rfl
  | cons item rest ih => rw [canonicalItems, ih, List.map_cons]

theorem insertMember_perm {value : Json} (fresh : name ∉ members.map (·.1)) :
    (insertMember name value members).Perm ((name, value) :: members) := by
  induction members with
  | nil => exact .refl _
  | cons first rest ih =>
    obtain ⟨key, other⟩ := first
    rw [List.map_cons, List.mem_cons, not_or] at fresh
    rw [insertMember]
    split
    · exact .refl _
    · split
      next heq => exact absurd heq fresh.1
      next => exact ((ih fresh.2).cons _).trans (.swap _ _ _)

theorem canonicalMembers_perm {sorted : List (String × Json)}
    (distinct : Distinct (members ++ sorted)) :
    (canonicalMembers sorted members).Perm (members.map (Prod.map id canonical) ++ sorted) := by
  induction members generalizing sorted with
  | nil => exact .refl _
  | cons first rest ih =>
    obtain ⟨key, value⟩ := first
    obtain ⟨absent, -⟩ : key ∉ (rest ++ sorted).map (·.1) ∧ Distinct (rest ++ sorted) :=
      List.nodup_cons.mp distinct
    rw [List.map_append, List.mem_append, not_or] at absent
    -- the key is not among those that are sorted, so nothing is replaced
    have hinsert : (insertMember key (canonical value) sorted).Perm
        ((key, canonical value) :: sorted) := insertMember_perm absent.2
    have hshift : (rest ++ insertMember key (canonical value) sorted).Perm
        ((key, canonical value) :: (rest ++ sorted)) :=
      (hinsert.append_left rest).trans List.perm_middle
    have distinct' : Distinct ((key, canonical value) :: (rest ++ sorted)) := distinct
    rw [canonicalMembers, List.map_cons, List.cons_append]
    exact ((ih (distinct'.perm hshift)).trans (hinsert.append_left _)).trans List.perm_middle

theorem mem_insertMember {value : Json} {m : String × Json}
    (h : m ∈ insertMember name value members) : m = (name, value) ∨ m ∈ members := by
  induction members with
  | nil => exact .inl (List.mem_singleton.mp h)
  | cons first rest ih =>
    obtain ⟨k, v⟩ := first
    rw [insertMember] at h
    split at h
    · exact List.mem_cons.mp h
    · split at h
      next heq =>
        rcases List.mem_cons.mp h with rfl | h
        · exact .inl (heq ▸ rfl)
        · exact .inr (List.mem_cons_of_mem _ h)
      next =>
        rcases List.mem_cons.mp h with rfl | h
        · exact .inr List.mem_cons_self
        · exact (ih h).imp_right (List.mem_cons_of_mem _)

/-- Putting members in canonical order makes no values that were not there. -/
theorem mem_canonicalMembers {sorted : List (String × Json)} {m : String × Json}
    (h : m ∈ canonicalMembers sorted members) :
    m ∈ sorted ∨ ∃ m' ∈ members, m.2 = m'.2.canonical := by
  induction members generalizing sorted with
  | nil => exact .inl h
  | cons first rest ih =>
    rcases ih h with h | ⟨m', hm', heq⟩
    · rcases mem_insertMember h with rfl | h
      · exact .inr ⟨first, List.mem_cons_self, rfl⟩
      · exact .inl h
    · exact .inr ⟨m', List.mem_cons_of_mem _ hm', heq⟩

theorem arrangement_canonical : Arrangement canonical where
  null := rfl
  bool _ := rfl
  int _ := rfl
  float _ := rfl
  string _ := rfl
  array items := by rw [canonical, canonicalItems_eq]
  object members distinct := by
    refine ⟨_, rfl, ?_⟩
    have perm := canonicalMembers_perm (by rwa [List.append_nil] : Distinct (members ++ []))
    rwa [List.append_nil] at perm

namespace Arrangement

variable (arr : Arrangement f)

include arr

theorem exists_members (distinct : Distinct members) : ∃ members',
    f (.object members) = .object members' ∧
      ∀ name, field? members' name = (field? members name).map (Option.map f) := by
  obtain ⟨members', heq, perm⟩ := arr.object members distinct
  exact ⟨members', heq, field?_arranged distinct perm⟩

theorem fields?_eq (distinct : Distinct members) (names : List String) :
    (f (.object members)).fields? names =
      ((Json.object members).fields? names).map (List.map (Option.map f)) := by
  obtain ⟨members', heq, perm⟩ := arr.object members distinct
  rw [heq, fields?_arranged distinct perm]

theorem fields?_keys (distinct : Distinct members) :
    (f (.object members)).fields? (members.map (·.1)) =
      some (members.map fun m => some (f m.2)) := by
  rw [arr.fields?_eq distinct, Json.fields?_keys distinct, Option.map_some, List.map_map]
  rfl

theorem object_singleton (key : String) (value : Json) :
    f (.object [(key, value)]) = .object [(key, f value)] := by
  obtain ⟨members', heq, perm⟩ := arr.object [(key, value)] (by simp [Distinct])
  rw [heq, perm.eq_singleton]
  rfl

theorem depth_lt_object (distinct : Distinct members) {value : Json} (h : (name, value) ∈ members) :
    (f value).depth < (f (.object members)).depth := by
  obtain ⟨members', heq, perm⟩ := arr.object members distinct
  have hmem : (name, f value) ∈ members' :=
    perm.mem_iff.mpr (List.mem_map.mpr ⟨(name, value), h, rfl⟩)
  rw [heq, depth]
  exact Nat.lt_succ_of_le (depth_le_depthMembers hmem)

theorem depth_lt_array {items : List Json} {item : Json} (h : item ∈ items) :
    (f item).depth < (f (.array items)).depth := by
  have hmem : f item ∈ items.map f := List.mem_map_of_mem h
  rw [arr.array, depth]
  exact Nat.lt_succ_of_le (depth_le_depthItems hmem)

/-- A list is read back if each of its members is. -/
theorem list?_eq {toJson : α → Json} {read : Json → Option α} {as : List α}
    (h : ∀ a ∈ as, read (f (toJson a)) = some a) :
    list? read (f (.array (as.map toJson))) = some as := by
  rw [arr.array, List.map_map, list?]
  induction as with
  | nil => rfl
  | cons a rest ih =>
    rw [List.forall_mem_cons] at h
    simp [h.1, ih h.2]

end Arrangement

end FieldSearch.Json
