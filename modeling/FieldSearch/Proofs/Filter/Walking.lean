import FieldSearch.Filter.Complexity
import Mathlib.Data.List.Perm.Basic

/-!
# Measuring a filter with a stack

What a walk has found and what is still on its stack make up the same measure before and after each
visit, and the visits that are left become fewer by one. So the walk comes to its end, and it has
then found the measure of the whole filter.
-/

namespace FieldSearch

namespace Complexity

/-- The measure of a node that stands at this depth. -/
def sunk (c : Complexity) (depth : Nat) : Complexity := ⟨depth + (c.depth - 1), c.leaves⟩

theorem beside_left_comm (a b c : Complexity) : a.beside (b.beside c) = b.beside (a.beside c) := by
  simp only [beside, mk.injEq]
  omega

end Complexity

/-- The measure of a node is made of those of its parts. -/
theorem measure_eq (node : Json) :
    measure node = (parts? node).elim .single fun parts => (measureAll parts).under := by
  rw [measure.eq_def, parts?.eq_def]
  split
  next op arg =>
    by_cases hnot : op = "not"
    · simp [hnot, measureAll, Complexity.beside]
    · by_cases hop : op = "and" ∨ op = "or"
      · cases arg <;> simp [hnot, hop, Json.array?]
      · simp [hnot, hop]
  next => rfl

theorem nodeCount_eq (node : Json) : nodeCount node = (parts? node).elim 0 nodeCounts + 1 := by
  rw [nodeCount.eq_def, parts?.eq_def]
  split
  next op arg =>
    by_cases hnot : op = "not"
    · simp [hnot, nodeCounts]
    · by_cases hop : op = "and" ∨ op = "or"
      · cases arg <;> simp [hnot, hop, Json.array?]
      · simp [hnot, hop]
  next => rfl

theorem nodeCounts_append (xs ys : List Json) :
    nodeCounts (xs ++ ys) = nodeCounts xs + nodeCounts ys := by
  induction xs with
  | nil => simp [nodeCounts]
  | cons node rest ih => simp [nodeCounts, ih, Nat.add_assoc]

theorem nodeCounts_reverse (nodes : List Json) : nodeCounts nodes.reverse = nodeCounts nodes := by
  induction nodes with
  | nil => rfl
  | cons node rest ih =>
    rw [List.reverse_cons, nodeCounts_append, ih]
    simp [nodeCounts, Nat.add_comm]

theorem one_le_measure (node : Json) : 1 ≤ (measure node).depth := by
  rw [measure_eq]
  cases parts? node with
  | none => exact Nat.le_refl 1
  | some parts => exact Nat.le_add_left 1 _

namespace Walk

/-- A node on the stack, measured together with something else. -/
def gather (pending : Json × Nat) (c : Complexity) : Complexity :=
  ((measure pending.1).sunk pending.2).beside c

instance : LeftCommutative gather where
  left_comm _ _ c := Complexity.beside_left_comm _ _ c

/-- What has been found together with what is on the stack. -/
def total (w : Walk) : Complexity := w.stack.foldr gather w.found

/-- The number of visits that are left. -/
def left (w : Walk) : Nat := nodeCounts (w.stack.map (·.1))

theorem foldr_gather_parts (parts : List Json) {depth : Nat} {c : Complexity}
    (deep : depth ≤ c.depth) : (parts.map (·, depth + 1)).foldr gather c =
      ⟨max c.depth (depth + (measureAll parts).depth), (measureAll parts).leaves + c.leaves⟩ := by
  induction parts with
  | nil => simp [measureAll, deep]
  | cons part rest ih =>
    have := one_le_measure part
    rw [List.map_cons, List.foldr_cons, ih, gather, measureAll]
    simp only [Complexity.beside, Complexity.sunk, Complexity.mk.injEq]
    omega

/-- A visit takes nothing away from the total. -/
theorem step_total (w : Walk) : w.step.total = w.total := by
  obtain ⟨stack, found⟩ := w
  cases stack with
  | nil => rfl
  | cons pending rest =>
    obtain ⟨node, depth⟩ := pending
    -- The order in which nodes are gathered does not matter, so the stack below may come first.
    have visited : ∀ new found', new.foldr gather found' = gather (node, depth) found →
        total ⟨new ++ rest, found'⟩ = total ⟨(node, depth) :: rest, found⟩ := by
      intro new found' h
      calc (new ++ rest).foldr gather found'
        _ = (rest ++ new).foldr gather found' := List.perm_append_comm.foldr_eq found'
        _ = (rest ++ [(node, depth)]).foldr gather found := by
            rw [List.foldr_append, h, List.foldr_append, List.foldr_cons, List.foldr_nil]
        _ = ((node, depth) :: rest).foldr gather found :=
            (List.perm_append_singleton _ rest).foldr_eq found
    have hnode := measure_eq node
    cases hparts : parts? node with
    | none =>
      simp only [step, hparts]
      refine visited [] _ ?_
      simp only [List.foldr_nil, gather, hnode, hparts, Option.elim_none, Complexity.single,
        Complexity.sunk, Complexity.beside, Complexity.mk.injEq]
      omega
    | some parts =>
      simp only [step, hparts]
      refine visited _ _ ?_
      rw [(List.reverse_perm _).foldr_eq, foldr_gather_parts parts (Nat.le_max_right _ _)]
      simp only [gather, hnode, hparts, Option.elim_some, Complexity.under, Complexity.sunk,
        Complexity.beside, Complexity.mk.injEq, and_true]
      omega

theorem run_total (n : Nat) (w : Walk) : (run n w).total = w.total := by
  induction n generalizing w with
  | zero => rfl
  | succ n ih => rw [run, ih, step_total]

/-- A visit leaves one visit less. -/
theorem step_left (w : Walk) : w.step.left = w.left - 1 := by
  obtain ⟨stack, found⟩ := w
  cases stack with
  | nil => rfl
  | cons pending rest =>
    obtain ⟨node, depth⟩ := pending
    have hnode := nodeCount_eq node
    cases hparts : parts? node with
    | none => simp [step, left, nodeCounts, hnode, hparts]
    | some parts =>
      have hpushed : ((parts.map (·, depth + 1)).reverse.map (·.1)) = parts.reverse := by
        simp [Function.comp_def]
      have hcounts := nodeCounts_reverse parts
      simp only [step, hparts, left, List.map_append, List.map_cons, hpushed, nodeCounts_append,
        nodeCounts, hnode, hcounts, Option.elim_some]
      omega

/-- A walk of as many visits as are left comes to its end. -/
theorem run_left (n : Nat) (w : Walk) : (run n w).left = w.left - n := by
  induction n generalizing w with
  | zero => rfl
  | succ n ih =>
    rw [run, ih, step_left]
    omega

theorem stack_of_left {w : Walk} (h : w.left = 0) : w.stack = [] := by
  obtain ⟨stack, found⟩ := w
  cases stack with
  | nil => rfl
  | cons pending rest =>
    have := nodeCount_eq pending.1
    simp only [left, List.map_cons, nodeCounts] at h
    omega

theorem start_total (node : Json) : (start node).total = measure node := by
  have := one_le_measure node
  have hgather : (start node).total = ⟨max (1 + ((measure node).depth - 1)) 0,
      (measure node).leaves + 0⟩ := rfl
  rw [hgather]
  refine congrArg₂ Complexity.mk ?_ rfl
  omega

/-- A walk over all nodes of a filter has nothing left to visit, and has found the measure of the
filter. -/
theorem run_start (node : Json) : (start node).run (nodeCount node) = ⟨[], measure node⟩ := by
  have hleft := run_left (nodeCount node) (start node)
  have htotal := run_total (nodeCount node) (start node)
  have hstart : (start node).left = nodeCount node := by simp [left, start, nodeCounts]
  rw [hstart, Nat.sub_self] at hleft
  rw [start_total] at htotal
  have hstack := stack_of_left hleft
  generalize (start node).run (nodeCount node) = w at hstack htotal
  obtain ⟨stack, found⟩ := w
  cases hstack
  exact congrArg (Walk.mk []) htotal

end Walk

theorem Complexity.ofFilter_eq (node : Json) : ofFilter node = measure node :=
  congrArg Walk.found (Walk.run_start node)

end FieldSearch
