import FieldSearch.Filter.Reader
import FieldSearch.Proofs.Filter.Walking
import FieldSearch.Proofs.Outcome

/-!
# Filters that have been read

The nodes that are read as filters, apart from the bounds. A filter that has been read has something
under each of its conjunctions and disjunctions, and as many leaves as were counted before.
-/

namespace FieldSearch

namespace Filter

/-- The node is read as the filter wherever the bounds allow it. -/
inductive Reads : Json → Filter → Prop
  | leaf {items : List Json} {l : Leaf} : (∀ op arg, items ≠ [.string op, arg]) →
      readItems (.array items) items = .ok (.leaf l) → Reads (.array items) (.leaf l)
  | not {arg : Json} {child : Filter} : Reads arg child →
      Reads (.array [.string "not", arg]) (.not child)
  | and {nodes : List Json} {children : List Filter} : nodes ≠ [] →
      nodes.length = children.length → (∀ p ∈ nodes.zip children, Reads p.1 p.2) →
      Reads (.array [.string "and", .array nodes]) (.and children)
  | or {nodes : List Json} {children : List Filter} : nodes ≠ [] →
      nodes.length = children.length → (∀ p ∈ nodes.zip children, Reads p.1 p.2) →
      Reads (.array [.string "or", .array nodes]) (.or children)

theorem readItems_eq_ok {node : Json} {items : List Json} {f : Filter}
    (h : readItems node items = .ok f) : ∃ l, f = .leaf l := by
  unfold readItems at h
  split at h
  · cases h
  · cases h
  · split at h
    · obtain ⟨path, -, h⟩ := bind_eq_ok.mp h
      split at h
      · split at h
        · cases h
          exact ⟨_, rfl⟩
        · cases h
      · cases h
    · cases h
  · cases h

/-- An array that is no pair of an operator and an argument is read by its items. -/
theorem readNode_items {bounds : Bounds} {depth : Nat} (shallow : ¬ bounds.maxDepth < depth)
    {items : List Json} (other : ∀ op arg, items ≠ [.string op, arg]) :
    readNode bounds depth (.array items) = readItems (.array items) items := by
  rw [readNode.eq_def, if_neg shallow]
  split
  next op arg heq => exact absurd (Json.array.inj heq) (other op arg)
  next items' _ heq => rw [← Json.array.inj heq]
  next hnot => exact absurd rfl (hnot items)

theorem readNode_not {bounds : Bounds} {depth : Nat} (shallow : ¬ bounds.maxDepth < depth)
    (arg : Json) : readNode bounds depth (.array [.string "not", arg]) =
      not <$> readNode bounds (depth + 1) arg := by
  rw [readNode.eq_def, if_neg shallow]
  simp only [if_true]

theorem readNode_group {bounds : Bounds} {depth : Nat} (shallow : ¬ bounds.maxDepth < depth)
    {op : String} (hop : op = "and" ∨ op = "or") {nodes : List Json} (hne : nodes ≠ []) :
    readNode bounds depth (.array [.string op, .array nodes]) =
      (if op = "and" then and else or) <$> readNodes bounds (depth + 1) nodes := by
  have hnot : op ≠ "not" := by rcases hop with rfl | rfl <;> decide
  rw [readNode.eq_def, if_neg shallow]
  cases nodes with
  | nil => exact absurd rfl hne
  | cons node rest =>
    simp only [hnot, hop, if_true, if_false]
    split <;> rfl

theorem readNode_reads {bounds : Bounds} (depth : Nat) (node : Json) :
    ∀ f, readNode bounds depth node = .ok f → Reads node f := by
  -- one case for each branch of the reader; the second motive is about the nodes of a list
  refine readNode.induct bounds
    (fun depth node => ∀ f, readNode bounds depth node = .ok f → Reads node f)
    (fun depth nodes => ∀ fs, readNodes bounds depth nodes = .ok fs →
      nodes.length = fs.length ∧ ∀ p ∈ nodes.zip fs, Reads p.1 p.2)
    ?_ ?_ ?_ ?_ ?_ ?_ ?_ ?_ ?_ ?_ depth node
  · intro node depth deep f h
    rw [readNode.eq_def, if_pos deep] at h
    cases h
  · intro depth shallow arg ih f h
    rw [readNode_not shallow] at h
    obtain ⟨child, hchild, rfl⟩ := map_eq_ok.mp h
    exact .not (ih child hchild)
  · intro depth shallow op hnot hop f h
    rw [readNode.eq_def, if_neg shallow] at h
    simp only [hnot, hop, if_true, if_false, reduceCtorEq] at h
  · intro depth shallow op _ hop children hne ih f h
    have hfull : children ≠ [] := fun hnil => hne hnil
    rw [readNode_group shallow hop hfull] at h
    obtain ⟨fs, hfs, rfl⟩ := map_eq_ok.mp h
    obtain ⟨hlength, reads⟩ := ih fs hfs
    rcases hop with rfl | rfl
    · exact .and hfull hlength reads
    · exact .or hfull hlength reads
  · intro depth shallow op arg hnot hop hnil harg f h
    rw [readNode.eq_def, if_neg shallow] at h
    simp only [hnot, hop, if_true, if_false, reduceCtorEq] at h
  · intro depth shallow op arg hnot hop f h
    rw [readNode.eq_def, if_neg shallow] at h
    simp only [hnot, hop, if_false, reduceCtorEq] at h
  · intro depth shallow items hitems f h
    rw [readNode_items shallow hitems] at h
    obtain ⟨l, rfl⟩ := readItems_eq_ok h
    exact .leaf hitems h
  · intro depth shallow node _ hitems f h
    rw [readNode.eq_def, if_neg shallow] at h
    split at h
    next op arg => exact (hitems _ rfl).elim
    next => exact (hitems _ rfl).elim
    next => cases h
  · intro depth fs h
    cases h
    simp
  · intro depth node rest ihnode ihrest fs h
    rw [readNodes] at h
    obtain ⟨f, hf, h⟩ := bind_eq_ok.mp h
    obtain ⟨fs', hfs, h⟩ := bind_eq_ok.mp h
    cases h
    obtain ⟨hlength, reads⟩ := ihrest fs' hfs
    refine ⟨by simp [hlength], ?_⟩
    rw [List.zip_cons_cons, List.forall_mem_cons]
    exact ⟨ihnode f hf, reads⟩

/-- A filter is read only within the bound on its leaves. -/
theorem parse_reads {bounds : Bounds} {node : Json} {f : Filter} (h : parse bounds node = .ok f) :
    Reads node f ∧ (measure node).leaves ≤ bounds.maxLeaves := by
  simp only [parse, Complexity.ofFilter_eq] at h
  split at h
  next => cases h
  next within =>
    rw [not_or, Nat.not_lt, Nat.not_lt] at within
    exact ⟨readNode_reads 1 node f h, within.2⟩

/-! ### Children -/

/-- No conjunction or disjunction in the filter is empty. -/
inductive Full : Filter → Prop
  | leaf (l : Leaf) : Full (.leaf l)
  | not {child : Filter} : Full child → Full (.not child)
  | and {children : List Filter} : children ≠ [] → (∀ child ∈ children, Full child) →
      Full (.and children)
  | or {children : List Filter} : children ≠ [] → (∀ child ∈ children, Full child) →
      Full (.or children)

/-- What holds of all pairs of two lists side by side holds of the right ones. -/
theorem forall_right_of_zip {α β : Type} {P : β → Prop} {as : List α} {bs : List β}
    (hlength : as.length = bs.length) (h : ∀ p ∈ as.zip bs, P p.2) : ∀ b ∈ bs, P b := by
  intro b hb
  rw [← List.map_snd_zip (Nat.le_of_eq hlength.symm)] at hb
  obtain ⟨p, hp, rfl⟩ := List.mem_map.mp hb
  exact h p hp

theorem Reads.full {node : Json} {f : Filter} (reads : Reads node f) : f.Full := by
  induction reads with
  | leaf => exact .leaf _
  | not _ ih => exact .not ih
  | and hne hlength _ ih =>
    have hfull := List.ne_nil_of_length_pos (hlength ▸ List.length_pos_iff.mpr hne)
    exact .and hfull (forall_right_of_zip hlength ih)
  | or hne hlength _ ih =>
    have hfull := List.ne_nil_of_length_pos (hlength ▸ List.length_pos_iff.mpr hne)
    exact .or hfull (forall_right_of_zip hlength ih)

/-! ### Leaves -/

/-- Induction over a filter, with the hypothesis for each of the children. -/
@[elab_as_elim]
theorem induct {motive : Filter → Prop} (leaf : ∀ l, motive (.leaf l))
    (not : ∀ child, motive child → motive (.not child))
    (and : ∀ children, (∀ child ∈ children, motive child) → motive (.and children))
    (or : ∀ children, (∀ child ∈ children, motive child) → motive (.or children))
    (f : Filter) : motive f :=
  @Filter.rec motive (fun fs => ∀ f ∈ fs, motive f) leaf not and or
    (by simp) (fun _ _ first rest => List.forall_mem_cons.mpr ⟨first, rest⟩) f

@[simp]
theorem leavesOf_eq (fs : List Filter) : leavesOf fs = fs.flatMap leaves := by
  induction fs with
  | nil => rfl
  | cons f rest ih => rw [leavesOf, ih, List.flatMap_cons]

theorem leafCounts_eq {fs : List Filter} (each : ∀ f ∈ fs, f.leafCount = f.leaves.length) :
    leafCounts fs = (leavesOf fs).length := by
  induction fs with
  | nil => rfl
  | cons f rest ih =>
    rw [List.forall_mem_cons] at each
    rw [leafCounts, leavesOf, List.length_append, each.1, ih each.2]

theorem leafCount_eq (f : Filter) : f.leafCount = f.leaves.length := by
  induction f using induct with
  | leaf l => rfl
  | not child ih => exact ih
  | and children ih => exact leafCounts_eq ih
  | or children ih => exact leafCounts_eq ih

theorem measureAll_leaves {nodes : List Json} {fs : List Filter}
    (hlength : nodes.length = fs.length)
    (h : ∀ p ∈ nodes.zip fs, (measure p.1).leaves = p.2.leaves.length) :
    (measureAll nodes).leaves = (leavesOf fs).length := by
  induction nodes generalizing fs with
  | nil =>
    rw [List.length_nil, eq_comm, List.length_eq_zero_iff] at hlength
    rw [hlength]
    rfl
  | cons node rest ih =>
    cases fs with
    | nil => cases hlength
    | cons f others =>
      rw [List.zip_cons_cons, List.forall_mem_cons] at h
      have hrest := ih (Nat.succ.inj hlength) h.2
      rw [measureAll, leavesOf, List.length_append, ← hrest, ← h.1]
      rfl

/-- The leaves that are counted beforehand are those of the filter. -/
theorem Reads.leaves {node : Json} {f : Filter} (reads : Reads node f) :
    (measure node).leaves = f.leaves.length := by
  induction reads with
  | @leaf items l hitems _ =>
    rw [measure.eq_def]
    split
    next op arg heq => exact absurd (Json.array.inj heq) (hitems op arg)
    next => rfl
  | not _ ih => simpa [measure, Filter.leaves, Complexity.under] using ih
  | and _ hlength _ ih =>
    have h := measureAll_leaves hlength ih
    simpa [measure, Filter.leaves, Complexity.under] using h
  | or _ hlength _ ih =>
    have h := measureAll_leaves hlength ih
    simpa [measure, Filter.leaves, Complexity.under] using h

end Filter

end FieldSearch
