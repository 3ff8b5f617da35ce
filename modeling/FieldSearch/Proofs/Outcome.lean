import Mathlib.Data.List.Forall2

/-!
# Computations that may fail

When a sequence of steps succeeds, every step has succeeded. When it fails, one step has failed and
those before it have succeeded.
-/

namespace FieldSearch

variable {ε α β : Type}

theorem bind_eq_ok {x : Except ε α} {f : α → Except ε β} {b : β} :
    x >>= f = .ok b ↔ ∃ a, x = .ok a ∧ f a = .ok b := by
  cases x with
  | error e => simp [bind, Except.bind]
  | ok a => simp [bind, Except.bind]

theorem bind_eq_error {x : Except ε α} {f : α → Except ε β} {e : ε} :
    x >>= f = .error e ↔ x = .error e ∨ ∃ a, x = .ok a ∧ f a = .error e := by
  cases x with
  | error e => simp [bind, Except.bind]
  | ok a => simp [bind, Except.bind]

/-- Steps that go on alike from what the first comes to are alike. -/
theorem bind_congr_ok {x : Except ε α} {f g : α → Except ε β} (h : ∀ a, x = .ok a → f a = g a) :
    x >>= f = x >>= g := by
  cases x with
  | error e => rfl
  | ok a => exact h a rfl

theorem map_eq_ok {x : Except ε α} {f : α → β} {b : β} :
    f <$> x = .ok b ↔ ∃ a, x = .ok a ∧ f a = b := by
  cases x with
  | error e => simp [Functor.map, Except.map]
  | ok a => simp [Functor.map, Except.map]

theorem map_eq_error {x : Except ε α} {f : α → β} {e : ε} : f <$> x = .error e ↔ x = .error e := by
  cases x with
  | error e => simp [Functor.map, Except.map]
  | ok a => simp [Functor.map, Except.map]

theorem mapError_eq_ok {ε' : Type} {x : Except ε α} {f : ε → ε'} {a : α} :
    x.mapError f = .ok a ↔ x = .ok a := by
  cases x with
  | error e => simp [Except.mapError]
  | ok b => simp [Except.mapError]

/-- Sequences of steps that fail alike, one step after another, fail alike. -/
theorem mapError_bind_congr {ε' : Type} {x y : Except ε α} {f g : α → Except ε β} {h : ε → ε'}
    (first : x.mapError h = y.mapError h) (rest : ∀ a, (f a).mapError h = (g a).mapError h) :
    (x >>= f).mapError h = (y >>= g).mapError h := by
  cases x <;> cases y <;> simp [Except.mapError, bind, Except.bind] at first ⊢
  case error.error => exact first
  case ok.ok => subst first; exact rest _

theorem mapM_eq_ok {f : α → Except ε β} {as : List α} {bs : List β} :
    as.mapM f = .ok bs ↔ List.Forall₂ (fun a b => f a = .ok b) as bs := by
  induction as generalizing bs with
  | nil => simp [pure, Except.pure, eq_comm]
  | cons a rest ih =>
    simp only [List.mapM_cons, bind_eq_ok, ih, List.forall₂_cons_left_iff]
    constructor
    · rintro ⟨b, hb, others, hrest, h⟩
      cases h
      exact ⟨b, others, hb, hrest, rfl⟩
    · rintro ⟨b, others, hb, hrest, rfl⟩
      exact ⟨b, hb, others, hrest, rfl⟩

/-- Steps that fail have one that fails first. -/
theorem mapM_eq_error {f : α → Except ε β} {as : List α} {e : ε} :
    as.mapM f = .error e ↔ ∃ before a after, as = before ++ a :: after ∧
      (∀ x ∈ before, ∃ b, f x = .ok b) ∧ f a = .error e := by
  induction as with
  | nil => simp [pure, Except.pure]
  | cons first rest ih =>
    rw [List.mapM_cons, bind_eq_error]
    constructor
    · rintro (h | ⟨b, hb, h⟩)
      · exact ⟨[], first, rest, rfl, by simp, h⟩
      · rcases bind_eq_error.mp h with h | ⟨bs, -, h⟩
        · obtain ⟨before, a, after, rfl, passed, failed⟩ := ih.mp h
          exact ⟨first :: before, a, after, rfl, List.forall_mem_cons.mpr ⟨⟨b, hb⟩, passed⟩,
            failed⟩
        · cases h
    · rintro ⟨before, a, after, split, passed, failed⟩
      cases before with
      | nil =>
        cases split
        exact .inl failed
      | cons b before =>
        cases split
        obtain ⟨⟨b, hb⟩, passed⟩ := List.forall_mem_cons.mp passed
        have hrest := ih.mpr ⟨before, a, after, rfl, passed, failed⟩
        exact .inr ⟨b, hb, bind_eq_error.mpr (.inl hrest)⟩

/-- What stands on the right of related lists is related to something on the left. -/
theorem forall₂_mem_right {R : α → β → Prop} {as : List α} {bs : List β}
    (h : List.Forall₂ R as bs) {b : β} (hb : b ∈ bs) : ∃ a ∈ as, R a b := by
  induction h with
  | nil => cases hb
  | cons hab _ ih =>
    rcases List.mem_cons.mp hb with rfl | hb
    · exact ⟨_, List.mem_cons_self, hab⟩
    · obtain ⟨a, ha, hr⟩ := ih hb
      exact ⟨a, List.mem_cons_of_mem _ ha, hr⟩

theorem forall₂_mem_left {R : α → β → Prop} {as : List α} {bs : List β}
    (h : List.Forall₂ R as bs) {a : α} (ha : a ∈ as) : ∃ b ∈ bs, R a b :=
  forall₂_mem_right h.flip ha

/-- A list that is related to one with an element in its midst has such an element too. -/
theorem forall₂_append_cons {R : α → β → Prop} {before after : List α} {a : α} {bs : List β} :
    List.Forall₂ R (before ++ a :: after) bs ↔
      ∃ before' b after', List.Forall₂ R before before' ∧ R a b ∧ List.Forall₂ R after after' ∧
        bs = before' ++ b :: after' := by
  constructor
  · intro h
    induction before generalizing bs with
    | nil =>
      cases h with
      | cons hab hafter => exact ⟨[], _, _, .nil, hab, hafter, rfl⟩
    | cons first rest ih =>
      cases h with
      | cons hfirst hrest =>
        obtain ⟨before', b, after', hbefore, hab, hafter, rfl⟩ := ih hrest
        exact ⟨_ :: before', b, after', .cons hfirst hbefore, hab, hafter, rfl⟩
  · rintro ⟨before', b, after', hbefore, hab, hafter, rfl⟩
    exact List.rel_append hbefore (.cons hab hafter)

/-- Where each element is related to something, the list is related to a list. -/
theorem exists_forall₂ {R : α → β → Prop} {as : List α} (h : ∀ a ∈ as, ∃ b, R a b) :
    ∃ bs, List.Forall₂ R as bs := by
  induction as with
  | nil => exact ⟨[], .nil⟩
  | cons a rest ih =>
    obtain ⟨b, hb⟩ := h a List.mem_cons_self
    obtain ⟨bs, hbs⟩ := ih fun a' ha' => h a' (List.mem_cons_of_mem a ha')
    exact ⟨b :: bs, .cons hb hbs⟩

/-- A sequence of steps succeeds if each of them does. -/
theorem exists_mapM_eq_ok {f : α → Except ε β} {as : List α} (h : ∀ a ∈ as, ∃ b, f a = .ok b) :
    ∃ bs, as.mapM f = .ok bs := by
  simp only [mapM_eq_ok]
  exact exists_forall₂ h

/-- A check of every member passes just if it passes for each. -/
theorem forM_eq_ok {f : α → Except ε Unit} {as : List α} :
    as.forM f = .ok () ↔ ∀ a ∈ as, f a = .ok () := by
  induction as with
  | nil => simp [pure, Except.pure]
  | cons a rest ih =>
    rw [List.forM_eq_forM] at ih ⊢
    simp only [List.forM_cons, bind_eq_ok, ih, List.mem_cons, forall_eq_or_imp]
    exact ⟨fun ⟨_, h⟩ => h, fun h => ⟨(), h⟩⟩

/-- What each step keeps holds of the result of all. -/
theorem foldlM_invariant {f : β → α → Except ε β} {as : List α} {b b' : β} (P : β → Prop)
    (step : ∀ b a b', P b → f b a = .ok b' → P b') (start : P b)
    (h : as.foldlM f b = .ok b') : P b' := by
  induction as generalizing b with
  | nil => cases h; exact start
  | cons a rest ih =>
    obtain ⟨c, hc, hrest⟩ := bind_eq_ok.mp (by simpa only [List.foldlM_cons] using h)
    exact ih (step b a c start hc) hrest

end FieldSearch
