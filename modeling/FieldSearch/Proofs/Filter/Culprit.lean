import FieldSearch.Proofs.Filter.Grammar

/-!
# The node that is to blame

The reader comes to the nodes of a filter from the outside in and from left to right, and stops at
the first that has not the shape of a filter. Its error is the one that this node has by itself, and
names it.
-/

namespace FieldSearch

/-! ### The first without a property -/

/-- The value is in the list and has not the property, which all before it have. -/
def FirstWithout {α : Type} (P : α → Prop) (xs : List α) (x : α) : Prop :=
  ∃ before after, xs = before ++ x :: after ∧ (∀ y ∈ before, P y) ∧ ¬ P x

namespace FirstWithout

variable {α : Type} {P : α → Prop} {xs : List α} {x : α}

theorem mem (h : FirstWithout P xs x) : x ∈ xs := by
  obtain ⟨before, after, rfl, -, -⟩ := h
  simp

theorem not_forall (h : FirstWithout P xs x) : ¬ ∀ y ∈ xs, P y := by
  intro each
  have passes := each x h.mem
  obtain ⟨-, -, -, -, fails⟩ := h
  exact fails passes

theorem between (h : FirstWithout P xs x) {front : List α} (passed : ∀ y ∈ front, P y)
    (back : List α) : FirstWithout P (front ++ xs ++ back) x := by
  obtain ⟨before, after, rfl, each, fails⟩ := h
  refine ⟨front ++ before, after ++ back, by simp, ?_, fails⟩
  rw [List.forall_mem_append]
  exact ⟨passed, each⟩

end FirstWithout

/-! ### Parts -/

theorem measure_le_measureAll {nodes : List Json} {node : Json} (h : node ∈ nodes) :
    (measure node).depth ≤ (measureAll nodes).depth ∧
      (measure node).leaves ≤ (measureAll nodes).leaves := by
  induction nodes with
  | nil => cases h
  | cons first rest ih =>
    simp only [measureAll, Complexity.beside]
    rcases List.mem_cons.mp h with rfl | h
    · omega
    · have hrest := ih h
      omega

/-- A part is less deep than what it is a part of, and has no more leaves. -/
theorem measure_part {node : Json} {parts : List Json} (hparts : parts? node = some parts)
    {part : Json} (hpart : part ∈ parts) :
    (measure part).depth < (measure node).depth ∧
      (measure part).leaves ≤ (measure node).leaves := by
  have hle := measure_le_measureAll hpart
  rw [measure_eq node, hparts, Option.elim_some]
  simp only [Complexity.under]
  omega

/-- Induction over a node, with the hypothesis for each of its parts. -/
@[elab_as_elim]
theorem parts_induct {motive : Json → Prop}
    (step : ∀ node, (∀ parts, parts? node = some parts → ∀ part ∈ parts, motive part) →
      motive node) (node : Json) : motive node := by
  induction hdepth : (measure node).depth using Nat.strongRecOn generalizing node with
  | ind depth ih =>
    refine step node fun parts hparts part hpart => ?_
    have hless := (measure_part hparts hpart).1
    exact ih _ (hdepth ▸ hless) part rfl

/-- The value is the other one or stands somewhere in it. -/
inductive Json.OccursIn : Json → Json → Prop
  | self (j : Json) : OccursIn j j
  | item {j item : Json} {items : List Json} : item ∈ items → OccursIn j item →
      OccursIn j (.array items)
  | member {j value : Json} {key : String} {members : List (String × Json)} :
      (key, value) ∈ members → OccursIn j value → OccursIn j (.object members)

namespace Filter

/-! ### Nodes -/

mutual

/-- The nodes of a filter, each before its parts and these from left to right. -/
def nodes : Json → List Json
  | .array [.string op, arg] =>
    .array [.string op, arg] ::
      (if op = "not" then nodes arg
      else if op = "and" ∨ op = "or" then
        match arg with
        | .array children => nodesOf children
        | _ => []
      else [])
  | node => [node]

def nodesOf : List Json → List Json
  | [] => []
  | child :: rest => nodes child ++ nodesOf rest

end

theorem nodesOf_eq (parts : List Json) : nodesOf parts = parts.flatMap nodes := by
  induction parts with
  | nil => rfl
  | cons part rest ih => rw [nodesOf, ih, List.flatMap_cons]

/-- What is no pair of an operator and an argument has no parts. -/
theorem parts?_other {node : Json} (h : ∀ op arg, node ≠ .array [.string op, arg]) :
    parts? node = none := by
  rw [parts?.eq_def]
  split
  next op arg => exact absurd rfl (h op arg)
  next => rfl

theorem nodes_other {node : Json} (h : ∀ op arg, node ≠ .array [.string op, arg]) :
    nodes node = [node] := by
  rw [nodes.eq_def]
  split
  next op arg => exact absurd rfl (h op arg)
  next => rfl

theorem nodes_eq (node : Json) :
    nodes node = node :: ((parts? node).getD []).flatMap nodes := by
  by_cases pair : ∃ op arg, node = .array [.string op, arg]
  · obtain ⟨op, arg, rfl⟩ := pair
    rw [nodes.eq_def, parts?.eq_def]
    by_cases hnot : op = "not"
    · simp [hnot]
    · by_cases hop : op = "and" ∨ op = "or"
      · cases arg <;> simp [hnot, hop, Json.array?, nodesOf_eq]
      · simp [hnot, hop]
  · have other : ∀ op arg, node ≠ .array [.string op, arg] :=
      fun op arg heq => pair ⟨op, arg, heq⟩
    rw [nodes_other other, parts?_other other]
    rfl

theorem mem_nodes_self (node : Json) : node ∈ nodes node := by
  rw [nodes_eq]
  exact List.mem_cons_self

theorem mem_nodes_part {node n : Json} {parts : List Json} (hparts : parts? node = some parts)
    {part : Json} (hpart : part ∈ parts) (hn : n ∈ nodes part) : n ∈ nodes node := by
  rw [nodes_eq, hparts, Option.getD_some]
  exact List.mem_cons_of_mem node (List.mem_flatMap.mpr ⟨part, hpart, hn⟩)

/-- A node is the filter itself or a node of one of its parts. -/
theorem mem_nodes {node n : Json} (h : n ∈ nodes node) :
    n = node ∨ ∃ parts, parts? node = some parts ∧ ∃ part ∈ parts, n ∈ nodes part := by
  rw [nodes_eq] at h
  rcases List.mem_cons.mp h with rfl | h
  · exact .inl rfl
  · obtain ⟨part, hpart, hn⟩ := List.mem_flatMap.mp h
    cases hparts : parts? node with
    | none =>
      rw [hparts] at hpart
      cases hpart
    | some parts =>
      rw [hparts] at hpart
      exact .inr ⟨parts, rfl, part, hpart, hn⟩

theorem nodes_measure {node n : Json} (h : n ∈ nodes node) :
    (measure n).depth ≤ (measure node).depth ∧ (measure n).leaves ≤ (measure node).leaves := by
  induction node using parts_induct with
  | step node ih =>
    rcases mem_nodes h with rfl | ⟨parts, hparts, part, hpart, hn⟩
    · omega
    · have hnode := measure_part hparts hpart
      have hsmall := ih parts hparts part hpart hn
      omega

theorem parts_occur {node part : Json} {parts : List Json} (hparts : parts? node = some parts)
    (hpart : part ∈ parts) {j : Json} (h : j.OccursIn part) : j.OccursIn node := by
  rw [parts?.eq_def] at hparts
  split at hparts
  next op arg =>
    split at hparts
    next =>
      cases hparts
      rw [List.mem_singleton] at hpart
      exact .item (List.mem_cons_of_mem _ List.mem_cons_self) (hpart ▸ h)
    next =>
      split at hparts
      next =>
        cases arg <;> cases hparts
        exact .item (List.mem_cons_of_mem _ List.mem_cons_self) (.item hpart h)
      next => cases hparts
  next => cases hparts

theorem nodes_occur {node n : Json} (h : n ∈ nodes node) : n.OccursIn node := by
  induction node using parts_induct with
  | step node ih =>
    rcases mem_nodes h with rfl | ⟨parts, hparts, part, hpart, hn⟩
    · exact .self n
    · exact parts_occur hparts hpart (ih parts hparts part hpart hn)

/-! ### Shape -/

/-- The node by itself has the shape of a filter, whatever its parts are. -/
inductive WellShaped : Json → Prop
  | leaf {names : List String} {token : String} {comparison : Comparison} (operand : Json) :
      2 ≤ names.length → (token, comparison) ∈ Comparison.tokenTable →
      WellShaped (leafNode names token operand)
  | not (arg : Json) : WellShaped (.array [.string "not", arg])
  | group {op : String} {parts : List Json} : op = "and" ∨ op = "or" → parts ≠ [] →
      WellShaped (.array [.string op, .array parts])

theorem parts?_not (arg : Json) : parts? (.array [.string "not", arg]) = some [arg] := by
  simp [parts?]

theorem parts?_group {op : String} (h : op = "and" ∨ op = "or") (parts : List Json) :
    parts? (.array [.string op, .array parts]) = some parts := by
  have hnot : op ≠ "not" := by rcases h with rfl | rfl <;> decide
  simp [parts?, hnot, h, Json.array?]

theorem parts?_leafNode {names : List String} (hlength : 2 ≤ names.length) (token : String)
    (operand : Json) : parts? (leafNode names token operand) = none :=
  parts?_other fun _ _ => leafNode_ne hlength _ _ _ _

mutual

/-- All nodes of a filter that can be read are well shaped. -/
theorem Mirrors.wellShaped {node : Json} {f : Filter} (mirrors : Mirrors node f) :
    ∀ n ∈ nodes node, WellShaped n := by
  cases mirrors with
  | leaf operand hlength known =>
    rw [nodes_eq, parts?_leafNode hlength]
    exact List.forall_mem_singleton.mpr (.leaf operand hlength known)
  | not child =>
    rw [nodes_eq, parts?_not]
    simp only [Option.getD_some, List.flatMap_singleton]
    exact List.forall_mem_cons.mpr ⟨.not _, child.wellShaped⟩
  | and full children =>
    rw [nodes_eq, parts?_group (.inl rfl)]
    exact List.forall_mem_cons.mpr ⟨.group (.inl rfl) full, children.wellShaped⟩
  | or full children =>
    rw [nodes_eq, parts?_group (.inr rfl)]
    exact List.forall_mem_cons.mpr ⟨.group (.inr rfl) full, children.wellShaped⟩

theorem MirrorsAll.wellShaped {parts : List Json} {fs : List Filter}
    (mirrors : MirrorsAll parts fs) : ∀ n ∈ parts.flatMap nodes, WellShaped n := by
  cases mirrors with
  | nil => simp
  | cons first rest =>
    rw [List.flatMap_cons, List.forall_mem_append]
    exact ⟨first.wellShaped, rest.wellShaped⟩

end

mutual

/-- The source of a leaf is a node of the filter, and the leaf is what it is read as. -/
theorem Mirrors.source {node : Json} {f : Filter} (mirrors : Mirrors node f) :
    ∀ l ∈ f.leaves, l.source ∈ nodes node ∧ Mirrors l.source (.leaf l) := by
  cases mirrors with
  | leaf operand hlength known =>
    exact List.forall_mem_singleton.mpr
      ⟨mem_nodes_self _, .leaf operand hlength known⟩
  | not child =>
    intro l hl
    obtain ⟨hmem, hsource⟩ := child.source l hl
    exact ⟨mem_nodes_part (parts?_not _) List.mem_cons_self hmem, hsource⟩
  | and full children =>
    intro l hl
    obtain ⟨part, hpart, hmem, hsource⟩ := children.source l hl
    exact ⟨mem_nodes_part (parts?_group (.inl rfl) _) hpart hmem, hsource⟩
  | or full children =>
    intro l hl
    obtain ⟨part, hpart, hmem, hsource⟩ := children.source l hl
    exact ⟨mem_nodes_part (parts?_group (.inr rfl) _) hpart hmem, hsource⟩

theorem MirrorsAll.source {parts : List Json} {fs : List Filter} (mirrors : MirrorsAll parts fs) :
    ∀ l ∈ leavesOf fs, ∃ part ∈ parts, l.source ∈ nodes part ∧ Mirrors l.source (.leaf l) := by
  cases mirrors with
  | nil => simp
  | cons first rest =>
    rw [leavesOf, List.forall_mem_append]
    constructor
    · exact fun l hl => ⟨_, List.mem_cons_self, first.source l hl⟩
    · intro l hl
      obtain ⟨part, hpart, found⟩ := rest.source l hl
      exact ⟨part, List.mem_cons_of_mem _ hpart, found⟩

end

/-! ### What the reader refuses -/

section Errors

variable {bounds : Bounds} {level : Nat} {node : Json} {e : SearchError}

theorem readPath_error {items : List Json} (h : readPath node items = .error e) :
    e.expression? = some node := by
  induction items with
  | nil => cases h
  | cons item rest ih =>
    cases item with
    | string s =>
      rcases bind_eq_error.mp h with h | ⟨names, -, h⟩
      · exact ih h
      · cases h
    | _ => cases h; rfl

theorem readLeaf_error {path : List Json} {token operand : Json}
    (h : readLeaf node path token operand = .error e) : e.expression? = some node := by
  rcases bind_eq_error.mp h with h | ⟨names, -, h⟩
  · exact readPath_error h
  · split at h
    · split at h
      · cases h
      · cases h; rfl
    · cases h; rfl

theorem readItems_error {items : List Json} (h : readItems node items = .error e) :
    e.expression? = some node := by
  unfold readItems at h
  split at h
  · cases h; rfl
  · cases h; rfl
  · split at h
    · exact readLeaf_error h
    · cases h; rfl
  · cases h; rfl

theorem readNode_pair_misshapen {op : String} {arg : Json}
    (h : ¬ WellShaped (.array [.string op, arg])) :
    ∃ fault, ∀ (bounds : Bounds) level, ¬ bounds.maxDepth < level →
      readNode bounds level (.array [.string op, arg]) =
        .error (.malformed fault (.array [.string op, arg])) := by
  by_cases hnot : op = "not"
  · subst hnot
    exact absurd (.not arg) h
  · by_cases hgroup : op = "and" ∨ op = "or"
    · cases arg with
      | array parts =>
        cases parts with
        | nil =>
          refine ⟨.noChildren, fun bounds level shallow => ?_⟩
          rw [readNode.eq_def, if_neg shallow]
          simp only [hnot, hgroup, if_true, if_false]
        | cons part rest => exact absurd (.group hgroup (List.cons_ne_nil part rest)) h
      | _ =>
        refine ⟨.childrenNotArray, fun bounds level shallow => ?_⟩
        rw [readNode.eq_def, if_neg shallow]
        simp only [hnot, hgroup, if_true, if_false]
    · refine ⟨.unknownOperator, fun bounds level shallow => ?_⟩
      rw [readNode.eq_def, if_neg shallow]
      simp only [hnot, hgroup, if_false]

/-- A node of the wrong shape has one error, which names it, wherever the reader comes to it. -/
theorem readNode_misshapen (h : ¬ WellShaped node) :
    ∃ e, e.expression? = some node ∧ ∀ (bounds : Bounds) level, ¬ bounds.maxDepth < level →
      readNode bounds level node = .error e := by
  by_cases pair : ∃ op arg, node = .array [.string op, arg]
  · obtain ⟨op, arg, rfl⟩ := pair
    obtain ⟨fault, always⟩ := readNode_pair_misshapen h
    exact ⟨.malformed fault _, rfl, always⟩
  · cases node with
    | array items =>
      have other : ∀ op arg, items ≠ [.string op, arg] :=
        fun op arg heq => pair ⟨op, arg, congrArg Json.array heq⟩
      cases hread : readItems (.array items) items with
      | ok f => exact absurd ((readItems_mirrors hread).wellShaped _ (mem_nodes_self _)) h
      | error e =>
        exact ⟨e, readItems_error hread,
          fun bounds level shallow => (readNode_items shallow other).trans hread⟩
    | _ =>
      refine ⟨.malformed .notArray _, rfl, fun bounds level shallow => ?_⟩
      rw [readNode.eq_def, if_neg shallow]

theorem readNodes_eq (nodes : List Json) :
    readNodes bounds level nodes = nodes.mapM (readNode bounds level) := by
  induction nodes with
  | nil => rfl
  | cons first rest ih => rw [readNodes, ih, List.mapM_cons]

/-- A node of the right shape that is not too deep is refused for the first of its parts that is
refused. -/
theorem readNode_error (shallow : ¬ bounds.maxDepth < level) (shaped : WellShaped node)
    (h : readNode bounds level node = .error e) :
    ∃ before part after, parts? node = some (before ++ part :: after) ∧
      (∀ x ∈ before, ∃ f, readNode bounds (level + 1) x = .ok f) ∧
      readNode bounds (level + 1) part = .error e := by
  cases shaped with
  | leaf operand hlength known =>
    have hread := (Mirrors.leaf operand hlength known).readNode bounds level
      (by simp only [depth]; omega)
    rw [hread] at h
    cases h
  | not arg =>
    rw [readNode.eq_def, if_neg shallow] at h
    simp only [if_true] at h
    exact ⟨[], arg, [], parts?_not arg, by simp, map_eq_error.mp h⟩
  | @group op parts hop full =>
    obtain ⟨first, rest, rfl⟩ := List.exists_cons_of_ne_nil full
    have hnot : op ≠ "not" := by rcases hop with rfl | rfl <;> decide
    rw [readNode.eq_def, if_neg shallow] at h
    simp only [hnot, hop, if_true, if_false] at h
    rcases bind_eq_error.mp h with h | ⟨fs, -, h⟩
    · rw [readNodes_eq] at h
      obtain ⟨before, part, after, split, passed, failed⟩ := mapM_eq_error.mp h
      exact ⟨before, part, after, split ▸ parts?_group hop _, passed, failed⟩
    · cases h

/-- Where the bound leaves room for what was measured, the reader stops at the first node of the
wrong shape, with the error of this node. -/
theorem readNode_culprit (room : level + (measure node).depth ≤ bounds.maxDepth + 1)
    (h : readNode bounds level node = .error e) :
    ∃ culprit, FirstWithout WellShaped (nodes node) culprit ∧ e.expression? = some culprit ∧
      ∀ (bounds : Bounds) level, ¬ bounds.maxDepth < level →
        readNode bounds level culprit = .error e := by
  induction node using parts_induct generalizing level with
  | step node ih =>
    have hpositive := one_le_measure node
    have shallow : ¬ bounds.maxDepth < level := by omega
    by_cases shaped : WellShaped node
    · obtain ⟨before, part, after, hparts, passed, failed⟩ := readNode_error shallow shaped h
      have hpart : part ∈ before ++ part :: after := by simp
      -- A part is measured as less deep than the node by as much as its level is deeper.
      have hless := (measure_part hparts hpart).1
      obtain ⟨culprit, first, blamed⟩ := ih _ hparts part hpart (by omega) failed
      have hnodes : nodes node =
          (node :: before.flatMap nodes) ++ nodes part ++ after.flatMap nodes := by
        rw [nodes_eq, hparts]
        simp
      have shapely : ∀ n ∈ before.flatMap nodes, WellShaped n := by
        intro n hn
        obtain ⟨x, hx, hn⟩ := List.mem_flatMap.mp hn
        obtain ⟨f, hf⟩ := passed x hx
        exact (readNode_reads _ _ f hf).mirrors.wellShaped n hn
      rw [hnodes]
      exact ⟨culprit, first.between (List.forall_mem_cons.mpr ⟨shaped, shapely⟩) _, blamed⟩
    · obtain ⟨e', named, always⟩ := readNode_misshapen shaped
      cases (always bounds level shallow).symm.trans h
      exact ⟨node, ⟨[], _, nodes_eq node, by simp, shaped⟩, named, always⟩

end Errors

end Filter

end FieldSearch
