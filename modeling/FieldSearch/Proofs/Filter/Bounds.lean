import FieldSearch.Proofs.Filter.Culprit

/-!
# Filters that are over the bounds

A filter is refused as too complex just if its measure is over the bounds. The reader looks at the
depth again on the way down and has nothing to object to then, since no node that it comes to is
deeper than what was measured. What has been read has the depth and the leaves that were measured.
-/

namespace FieldSearch

/-- The filter is over the bounds. -/
def SearchError.isTooComplex : SearchError → Bool
  | tooComplex .. => true
  | _ => false

/-- What names a part of the request is not about its size. -/
theorem SearchError.not_tooComplex {e : SearchError} {j : Json} (h : e.expression? = some j) :
    e.isTooComplex = false := by
  cases e <;> first | rfl | cases h

namespace Filter

variable {bounds : Bounds} {level : Nat} {node : Json} {e : SearchError}

/-- Where the bound leaves room for what was measured, the reader never comes to a node that is too
deep. -/
theorem readNode_shallow (room : level + (measure node).depth ≤ bounds.maxDepth + 1)
    (h : readNode bounds level node = .error e) : e.isTooComplex = false := by
  obtain ⟨culprit, -, named, -⟩ := readNode_culprit room h
  exact SearchError.not_tooComplex named

/-! ### Refusal as too complex -/

/-- The measure is over the bounds. -/
def Over (bounds : Bounds) (c : Complexity) : Prop :=
  bounds.maxDepth < c.depth ∨ bounds.maxLeaves < c.leaves
deriving Decidable

theorem parse_over (h : Over bounds (measure node)) :
    parse bounds node = .error (tooComplex bounds (measure node).depth (measure node).leaves) := by
  rw [Over] at h
  simp only [parse, Complexity.ofFilter_eq, if_pos h]

theorem parse_within (h : ¬ Over bounds (measure node)) :
    parse bounds node = readNode bounds 1 node := by
  rw [Over] at h
  simp only [parse, Complexity.ofFilter_eq, if_neg h]

/-- A filter within the bounds that is not read has a first node of the wrong shape, and the error
of this node. -/
theorem parse_culprit (within : ¬ Over bounds (measure node)) (h : parse bounds node = .error e) :
    ∃ culprit, FirstWithout WellShaped (nodes node) culprit ∧ e.expression? = some culprit ∧
      parse bounds culprit = .error e := by
  rw [parse_within within] at h
  have hpositive := one_le_measure node
  rw [Over] at within
  obtain ⟨culprit, first, named, always⟩ := readNode_culprit (by omega) h
  have hsmall := nodes_measure first.mem
  have within' : ¬ Over bounds (measure culprit) := by
    rw [Over]
    omega
  refine ⟨culprit, first, named, ?_⟩
  rw [parse_within within']
  exact always bounds 1 (by omega)

/-- A filter within the bounds is read just if all its nodes are well shaped. -/
theorem exists_parse_iff (within : ¬ Over bounds (measure node)) :
    (∃ f, parse bounds node = .ok f) ↔ ∀ n ∈ nodes node, WellShaped n := by
  constructor
  · rintro ⟨f, hf⟩
    exact (parse_eq_ok.mp hf).1.wellShaped
  · intro shaped
    cases h : parse bounds node with
    | ok f => exact ⟨f, rfl⟩
    | error e =>
      obtain ⟨culprit, first, -⟩ := parse_culprit within h
      exact absurd shaped first.not_forall

/-- A walk over a filter ends with its measure found. The filter is refused as too complex just if
this is over the bounds, and with these numbers; otherwise the reader, which tests the depth of
every node again, does not find it too deep anywhere. What is read has the measured depth and number
of leaves. -/
theorem measured_before_reading (bounds : Bounds) (node : Json) :
    (Walk.start node).run (nodeCount node) = ⟨[], measure node⟩ ∧
    ((∃ e, parse bounds node = .error e ∧ e.isTooComplex = true) ↔
      Over bounds (measure node)) ∧
    (Over bounds (measure node) → parse bounds node =
      .error (tooComplex bounds (measure node).depth (measure node).leaves)) ∧
    (¬ Over bounds (measure node) → parse bounds node = readNode bounds 1 node ∧
      ∀ e, readNode bounds 1 node = .error e → e.isTooComplex = false) ∧
    ∀ f, parse bounds node = .ok f → measure node = ⟨f.depth, f.leafCount⟩ := by
  have silent : ¬ Over bounds (measure node) → ∀ e, readNode bounds 1 node = .error e →
      e.isTooComplex = false := by
    intro within e h
    rw [Over] at within
    exact readNode_shallow (by omega) h
  refine ⟨Walk.run_start node, ⟨?refused, ?exceeding⟩, parse_over, ?silent, ?read⟩
  case refused =>
    rintro ⟨e, h, complex⟩
    by_contra within
    rw [parse_within within] at h
    rw [silent within e h] at complex
    cases complex
  case exceeding => exact fun h => ⟨_, parse_over h, rfl⟩
  case silent => exact fun within => ⟨parse_within within, silent within⟩
  case read => exact fun f h => (parse_eq_ok.mp h).1.measure

namespace Shapes

/-- The second part is no filter. -/
def brokenNode : Json := .array [.string "and", .array [likeNode, .array []]]

end Shapes

theorem sample_measured :
    (Walk.start Shapes.node).run (nodeCount Shapes.node) = ⟨[], ⟨3, 2⟩⟩ ∧
    parse ⟨2, 2⟩ Shapes.node = .error (tooComplex ⟨2, 2⟩ 3 2) ∧
    (∃ f, parse ⟨3, 2⟩ Shapes.node = .ok f ∧ measure Shapes.node = ⟨f.depth, f.leafCount⟩) ∧
    ∃ e, parse ⟨2, 2⟩ Shapes.brokenNode = .error e ∧ e.isTooComplex = false := by
  obtain ⟨walked, -, refused, -, -⟩ := measured_before_reading ⟨2, 2⟩ Shapes.node
  obtain ⟨f, hf⟩ : ∃ f, parse ⟨3, 2⟩ Shapes.node = .ok f := ⟨_, rfl⟩
  obtain ⟨-, -, -, -, read⟩ := measured_before_reading ⟨3, 2⟩ Shapes.node
  obtain ⟨-, -, -, within, -⟩ := measured_before_reading ⟨2, 2⟩ Shapes.brokenNode
  obtain ⟨hread, silent⟩ := within (by decide)
  have hbroken : readNode ⟨2, 2⟩ 1 Shapes.brokenNode =
      .error (.malformed .empty (.array [])) := rfl
  exact ⟨walked, refused (by decide), ⟨f, hf, read f hf⟩, _, hread.trans hbroken,
    silent _ hbroken⟩

end Filter

end FieldSearch
