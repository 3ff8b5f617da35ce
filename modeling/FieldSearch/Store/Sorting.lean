/-!
# Putting rows in order

A list sorted by a relation; elements that the relation does not tell apart stay as they were.
-/

namespace FieldSearch

/-- Insert before the first element that may come after it. -/
def insertBy {α : Type} (le : α → α → Bool) (a : α) : List α → List α
  | [] => [a]
  | b :: rest => if le a b then a :: b :: rest else b :: insertBy le a rest

def sortBy {α : Type} (le : α → α → Bool) (as : List α) : List α := as.foldr (insertBy le) []

theorem insertBy_perm {α : Type} (le : α → α → Bool) (a : α) (as : List α) :
    (insertBy le a as).Perm (a :: as) := by
  induction as with
  | nil => exact .refl _
  | cons b rest ih =>
    rw [insertBy]
    split
    · exact .refl _
    · exact (ih.cons b).trans (.swap a b rest)

theorem sortBy_perm {α : Type} (le : α → α → Bool) (as : List α) : (sortBy le as).Perm as := by
  induction as with
  | nil => exact .refl _
  | cons a rest ih => exact (insertBy_perm le a _).trans (ih.cons a)

@[simp]
theorem length_sortBy {α : Type} (le : α → α → Bool) (as : List α) :
    (sortBy le as).length = as.length :=
  (sortBy_perm le as).length_eq

@[simp]
theorem mem_sortBy {α : Type} {le : α → α → Bool} {a : α} {as : List α} :
    a ∈ sortBy le as ↔ a ∈ as :=
  (sortBy_perm le as).mem_iff

end FieldSearch
