import FieldSearch.Proofs.Filter.Reading

/-!
# The grammar of filters

The nodes that are filters, said apart from the reader, with the tree that each of them has and the
node in which a tree is written. The reader accepts exactly the filters within its bounds, gives the
tree of each, and reads every written tree back.
-/

namespace FieldSearch

namespace Filter

/-- The node of a leaf: names, a token and an operand. -/
def leafNode (names : List String) (token : String) (operand : Json) : Json :=
  .array (names.map .string ++ [.string token, operand])

mutual

/-- The node is a filter of this nesting depth with this many leaves. -/
inductive IsFilter : Json → Nat → Nat → Prop
  | leaf {names : List String} {token : String} {comparison : Comparison} (operand : Json) :
      2 ≤ names.length → (token, comparison) ∈ Comparison.tokenTable →
      IsFilter (leafNode names token operand) 1 1
  | not {arg : Json} {depth leaves : Nat} : IsFilter arg depth leaves →
      IsFilter (.array [.string "not", arg]) (depth + 1) leaves
  | and {nodes : List Json} {depth leaves : Nat} : nodes ≠ [] → AreFilters nodes depth leaves →
      IsFilter (.array [.string "and", .array nodes]) (depth + 1) leaves
  | or {nodes : List Json} {depth leaves : Nat} : nodes ≠ [] → AreFilters nodes depth leaves →
      IsFilter (.array [.string "or", .array nodes]) (depth + 1) leaves

/-- All nodes are filters; the greatest depth of them, and the number of leaves in all. -/
inductive AreFilters : List Json → Nat → Nat → Prop
  | nil : AreFilters [] 0 0
  | cons {node : Json} {rest : List Json} {depth leaves depths leavesOfRest : Nat} :
      IsFilter node depth leaves → AreFilters rest depths leavesOfRest →
      AreFilters (node :: rest) (max depth depths) (leaves + leavesOfRest)

end

mutual

/-- The tree has the operators, paths and operands of the node, and each of its leaves the part of
the node at its place as source. -/
inductive Mirrors : Json → Filter → Prop
  | leaf {names : List String} {token : String} {comparison : Comparison} (operand : Json) :
      2 ≤ names.length → (token, comparison) ∈ Comparison.tokenTable →
      Mirrors (leafNode names token operand)
        (.leaf ⟨names, comparison, operand, leafNode names token operand⟩)
  | not {arg : Json} {child : Filter} : Mirrors arg child →
      Mirrors (.array [.string "not", arg]) (.not child)
  | and {nodes : List Json} {children : List Filter} : nodes ≠ [] → MirrorsAll nodes children →
      Mirrors (.array [.string "and", .array nodes]) (.and children)
  | or {nodes : List Json} {children : List Filter} : nodes ≠ [] → MirrorsAll nodes children →
      Mirrors (.array [.string "or", .array nodes]) (.or children)

inductive MirrorsAll : List Json → List Filter → Prop
  | nil : MirrorsAll [] []
  | cons {node : Json} {rest : List Json} {f : Filter} {others : List Filter} :
      Mirrors node f → MirrorsAll rest others → MirrorsAll (node :: rest) (f :: others)

end

mutual

/-- The node in which a tree is written, each comparison by its symbol. -/
def written : Filter → Json
  | leaf l => leafNode l.path l.comparison.symbol l.operand
  | not child => .array [.string "not", child.written]
  | and children => .array [.string "and", .array (writtenAll children)]
  | or children => .array [.string "or", .array (writtenAll children)]

def writtenAll : List Filter → List Json
  | [] => []
  | child :: rest => child.written :: writtenAll rest

end

mutual

/-- The tree without the sources of its leaves. -/
def unsourced : Filter → Filter
  | leaf l => leaf { l with source := .null }
  | not child => not child.unsourced
  | and children => and (unsourcedAll children)
  | or children => or (unsourcedAll children)

def unsourcedAll : List Filter → List Filter
  | [] => []
  | child :: rest => child.unsourced :: unsourcedAll rest

end

/-! ### Leaves -/

theorem ofToken?_eq_some {token : String} {comparison : Comparison} :
    Comparison.ofToken? token = some comparison ↔
      (token, comparison) ∈ Comparison.tokenTable := by
  constructor
  · intro h
    obtain ⟨before, after, split, -⟩ := List.lookup_eq_some_iff.mp h
    simp [split]
  · -- No token stands in the table twice.
    have found : ∀ p ∈ Comparison.tokenTable, Comparison.ofToken? p.1 = some p.2 := by decide
    exact found (token, comparison)

theorem symbol_mem_tokenTable (c : Comparison) : (c.symbol, c) ∈ Comparison.tokenTable := by
  cases c <;> decide

theorem readPath_eq_ok {node : Json} {items : List Json} {names : List String} :
    readPath node items = .ok names ↔ items = names.map .string := by
  induction items generalizing names with
  | nil => cases names <;> simp [readPath]
  | cons item rest ih =>
    cases item with
    | string s =>
      simp only [readPath, bind_eq_ok, ih, pure, Except.pure, Except.ok.injEq]
      cases names with
      | nil => simp
      | cons name others =>
        simp only [List.map_cons, List.cons.injEq, Json.string.injEq]
        constructor
        · rintro ⟨names, rfl, rfl, rfl⟩
          exact ⟨rfl, rfl⟩
        · rintro ⟨rfl, rfl⟩
          exact ⟨_, rfl, rfl, rfl⟩
    | _ => cases names <;> simp [readPath]

theorem readLeaf_eq_ok {node token operand : Json} {path : List Json} {f : Filter} :
    readLeaf node path token operand = .ok f ↔
      ∃ names text comparison, path = names.map .string ∧ token = .string text ∧
        (text, comparison) ∈ Comparison.tokenTable ∧
        f = .leaf ⟨names, comparison, operand, node⟩ := by
  simp only [readLeaf, bind_eq_ok, readPath_eq_ok]
  constructor
  · rintro ⟨names, hpath, h⟩
    split at h
    next text =>
      split at h
      next comparison found =>
        cases h
        exact ⟨names, text, comparison, hpath, rfl, ofToken?_eq_some.mp found, rfl⟩
      next => cases h
    next => cases h
  · rintro ⟨names, text, comparison, hpath, rfl, known, rfl⟩
    refine ⟨names, hpath, ?_⟩
    simp [ofToken?_eq_some.mpr known, pure, Except.pure]

/-- What is read as a leaf is the node of one. -/
theorem readItems_mirrors {items : List Json} {f : Filter}
    (h : readItems (.array items) items = .ok f) : Mirrors (.array items) f := by
  unfold readItems at h
  split at h
  next => cases h
  next => cases h
  next operand token path _ hreverse =>
    split at h
    next long =>
      obtain ⟨names, text, comparison, hpath, rfl, known, rfl⟩ := readLeaf_eq_ok.mp h
      have hitems : items = names.map .string ++ [.string text, operand] := by
        rw [← hpath, ← List.reverse_reverse items, hreverse]
        simp
      have hlength : names.length = path.length := by
        simpa using (congrArg List.length hpath).symm
      subst hitems
      exact .leaf operand (by omega) known
    next => cases h
  next => cases h

/-- Two names or more, a token and an operand are read as a leaf. -/
theorem readItems_names {names : List String} (hlength : 2 ≤ names.length) (token : String)
    (operand node : Json) : readItems node (names.map .string ++ [.string token, operand]) =
      readLeaf node (names.map .string) (.string token) operand := by
  have hstrings : (names.map Json.string).reverse.all isString = true := by
    simp [isString]
  have hreverse : (names.map Json.string ++ [.string token, operand]).reverse =
      operand :: .string token :: (names.map Json.string).reverse := by simp
  have hpath : (names.map Json.string).reverse.length = names.length := by simp
  rw [readItems, hreverse]
  split
  next heq => cases heq
  next heq =>
    rw [List.cons.injEq, List.cons.injEq] at heq
    rw [heq.2.2] at hpath
    simp only [List.length_nil] at hpath
    omega
  next heq =>
    simp only [List.cons.injEq] at heq
    obtain ⟨rfl, rfl, rfl⟩ := heq
    rw [if_pos (by simp only [hpath, hstrings, and_true]; omega), List.reverse_reverse]
  next other => exact absurd rfl (other _ _ _)

theorem readItems_leafNode {names : List String} {token : String} {comparison : Comparison}
    (operand : Json) (hlength : 2 ≤ names.length)
    (known : (token, comparison) ∈ Comparison.tokenTable) (node : Json) :
    readItems node (names.map .string ++ [.string token, operand]) =
      .ok (.leaf ⟨names, comparison, operand, node⟩) := by
  rw [readItems_names hlength, readLeaf_eq_ok]
  exact ⟨names, token, comparison, rfl, rfl, known, rfl⟩

/-- A leaf has more than two items, so it is no `not`, `and` or `or`. -/
theorem leafNode_ne {names : List String} (hlength : 2 ≤ names.length) (token : String)
    (operand op arg : Json) : leafNode names token operand ≠ .array [op, arg] := by
  intro h
  have := congrArg List.length (Json.array.inj h)
  simp only [List.length_append, List.length_map, List.length_cons, List.length_nil] at this
  omega

/-! ### Acceptance -/

theorem mirrorsAll_of_zip {nodes : List Json} {fs : List Filter}
    (hlength : nodes.length = fs.length) (h : ∀ p ∈ nodes.zip fs, Mirrors p.1 p.2) :
    MirrorsAll nodes fs := by
  induction nodes generalizing fs with
  | nil =>
    rw [List.length_nil, eq_comm, List.length_eq_zero_iff] at hlength
    exact hlength ▸ .nil
  | cons node rest ih =>
    cases fs with
    | nil => cases hlength
    | cons f others =>
      rw [List.zip_cons_cons, List.forall_mem_cons] at h
      exact .cons h.1 (ih (Nat.succ.inj hlength) h.2)

/-- The reader gives the tree of a node. -/
theorem Reads.mirrors {node : Json} {f : Filter} (reads : Reads node f) : Mirrors node f := by
  induction reads with
  | leaf _ h => exact readItems_mirrors h
  | not _ ih => exact .not ih
  | and hne hlength _ ih => exact .and hne (mirrorsAll_of_zip hlength ih)
  | or hne hlength _ ih => exact .or hne (mirrorsAll_of_zip hlength ih)

mutual

/-- What is counted beforehand is the complexity of the tree. -/
theorem Mirrors.measure {node : Json} {f : Filter} (mirrors : Mirrors node f) :
    FieldSearch.measure node = ⟨f.depth, f.leafCount⟩ := by
  cases mirrors with
  | leaf operand hlength =>
    rw [measure.eq_def]
    split
    next heq => exact absurd heq (leafNode_ne hlength _ _ _ _)
    next => rfl
  | not child =>
    simp [FieldSearch.measure, child.measure, Complexity.under, depth, leafCount]
  | and hne children =>
    simp [FieldSearch.measure, children.measureAll, Complexity.under, depth, leafCount]
  | or hne children =>
    simp [FieldSearch.measure, children.measureAll, Complexity.under, depth, leafCount]

theorem MirrorsAll.measureAll {nodes : List Json} {fs : List Filter}
    (mirrors : MirrorsAll nodes fs) :
    FieldSearch.measureAll nodes = ⟨depths fs, leafCounts fs⟩ := by
  cases mirrors with
  | nil => rfl
  | cons first rest =>
    rw [FieldSearch.measureAll, first.measure, rest.measureAll]
    rfl

end

theorem one_le_depth (f : Filter) : 1 ≤ f.depth := by
  cases f <;> simp [depth]

mutual

/-- A node is read where the bound leaves room for the tree below it. -/
theorem Mirrors.readNode {node : Json} {f : Filter} (mirrors : Mirrors node f) (bounds : Bounds)
    (level : Nat) (room : level + f.depth ≤ bounds.maxDepth + 1) :
    Filter.readNode bounds level node = .ok f := by
  have shallow : ¬ bounds.maxDepth < level := by
    have := one_le_depth f
    omega
  cases mirrors with
  | leaf operand hlength known =>
    rw [leafNode, readNode_items shallow]
    · exact readItems_leafNode operand hlength known _
    · exact fun op arg heq => leafNode_ne hlength _ _ _ _ (congrArg Json.array heq)
  | not child =>
    rw [depth] at room
    rw [readNode_not shallow, child.readNode bounds (level + 1) (by omega)]
    rfl
  | and hne children =>
    rw [depth] at room
    rw [readNode_group shallow (.inl rfl) hne, children.readNodes bounds (level + 1) (by omega)]
    rfl
  | or hne children =>
    rw [depth] at room
    rw [readNode_group shallow (.inr rfl) hne, children.readNodes bounds (level + 1) (by omega)]
    rfl

theorem MirrorsAll.readNodes {nodes : List Json} {fs : List Filter}
    (mirrors : MirrorsAll nodes fs) (bounds : Bounds) (level : Nat)
    (room : level + depths fs ≤ bounds.maxDepth + 1) :
    Filter.readNodes bounds level nodes = .ok fs := by
  cases mirrors with
  | nil => rfl
  | cons first rest =>
    rw [depths] at room
    rw [Filter.readNodes, first.readNode bounds level (by omega),
      rest.readNodes bounds level (by omega)]
    rfl

end

/-- The reader gives a tree exactly where the node has it and it is within the bounds. -/
theorem parse_eq_ok {bounds : Bounds} {node : Json} {f : Filter} :
    parse bounds node = .ok f ↔
      Mirrors node f ∧ f.depth ≤ bounds.maxDepth ∧ f.leafCount ≤ bounds.maxLeaves := by
  constructor
  · intro h
    have mirrors := (parse_reads h).1.mirrors
    refine ⟨mirrors, ?_⟩
    simp only [parse, Complexity.ofFilter_eq, mirrors.measure] at h
    split at h
    next => cases h
    next within => omega
  · rintro ⟨mirrors, hdepth, hleaves⟩
    have within : ¬ (bounds.maxDepth < f.depth ∨ bounds.maxLeaves < f.leafCount) := by omega
    simp only [parse, Complexity.ofFilter_eq, mirrors.measure, if_neg within]
    exact mirrors.readNode bounds 1 (by omega)

/-! ### Filters and their trees -/

mutual

theorem IsFilter.tree {node : Json} {depth leaves : Nat} (filter : IsFilter node depth leaves) :
    ∃ f, Mirrors node f ∧ f.depth = depth ∧ f.leafCount = leaves := by
  cases filter with
  | leaf operand hlength known => exact ⟨_, .leaf operand hlength known, rfl, rfl⟩
  | not arg =>
    obtain ⟨child, mirrors, rfl, rfl⟩ := arg.tree
    exact ⟨_, .not mirrors, rfl, rfl⟩
  | and hne nodes =>
    obtain ⟨children, mirrors, rfl, rfl⟩ := nodes.trees
    exact ⟨_, .and hne mirrors, rfl, rfl⟩
  | or hne nodes =>
    obtain ⟨children, mirrors, rfl, rfl⟩ := nodes.trees
    exact ⟨_, .or hne mirrors, rfl, rfl⟩

theorem AreFilters.trees {nodes : List Json} {depth leaves : Nat}
    (filters : AreFilters nodes depth leaves) :
    ∃ fs, MirrorsAll nodes fs ∧ depths fs = depth ∧ leafCounts fs = leaves := by
  cases filters with
  | nil => exact ⟨[], .nil, rfl, rfl⟩
  | cons first rest =>
    obtain ⟨f, mirrors, rfl, rfl⟩ := first.tree
    obtain ⟨others, mirrorsAll, rfl, rfl⟩ := rest.trees
    exact ⟨f :: others, .cons mirrors mirrorsAll, rfl, rfl⟩

end

mutual

theorem Mirrors.isFilter {node : Json} {f : Filter} (mirrors : Mirrors node f) :
    IsFilter node f.depth f.leafCount := by
  cases mirrors with
  | leaf operand hlength known => exact .leaf operand hlength known
  | not child => exact .not child.isFilter
  | and hne children => exact .and hne children.areFilters
  | or hne children => exact .or hne children.areFilters

theorem MirrorsAll.areFilters {nodes : List Json} {fs : List Filter}
    (mirrors : MirrorsAll nodes fs) : AreFilters nodes (depths fs) (leafCounts fs) := by
  cases mirrors with
  | nil => exact .nil
  | cons first rest => exact .cons first.isFilter rest.areFilters

end

/-! ### Writing -/

mutual

theorem depth_unsourced (f : Filter) : f.unsourced.depth = f.depth := by
  cases f with
  | leaf l => rfl
  | not child => simp only [unsourced, depth, depth_unsourced child]
  | and children => simp only [unsourced, depth, depths_unsourced children]
  | or children => simp only [unsourced, depth, depths_unsourced children]

theorem depths_unsourced (fs : List Filter) : depths (unsourcedAll fs) = depths fs := by
  cases fs with
  | nil => rfl
  | cons f rest => simp only [unsourcedAll, depths, depth_unsourced f, depths_unsourced rest]

end

mutual

theorem leafCount_unsourced (f : Filter) : f.unsourced.leafCount = f.leafCount := by
  cases f with
  | leaf l => rfl
  | not child => simp only [unsourced, leafCount, leafCount_unsourced child]
  | and children => simp only [unsourced, leafCount, leafCounts_unsourced children]
  | or children => simp only [unsourced, leafCount, leafCounts_unsourced children]

theorem leafCounts_unsourced (fs : List Filter) :
    leafCounts (unsourcedAll fs) = leafCounts fs := by
  cases fs with
  | nil => rfl
  | cons f rest =>
    simp only [unsourcedAll, leafCounts, leafCount_unsourced f, leafCounts_unsourced rest]

end

theorem writtenAll_ne_nil {fs : List Filter} (hne : fs ≠ []) : writtenAll fs ≠ [] := by
  cases fs with
  | nil => exact absurd rfl hne
  | cons f rest => simp [writtenAll]

theorem mirrorsAll_written {fs : List Filter}
    (h : ∀ f ∈ fs, ∃ g, Mirrors f.written g ∧ g.unsourced = f.unsourced) :
    ∃ gs, MirrorsAll (writtenAll fs) gs ∧ unsourcedAll gs = unsourcedAll fs := by
  induction fs with
  | nil => exact ⟨[], .nil, rfl⟩
  | cons f rest ih =>
    rw [List.forall_mem_cons] at h
    obtain ⟨g, mirrors, same⟩ := h.1
    obtain ⟨gs, mirrorsAll, sameAll⟩ := ih h.2
    refine ⟨g :: gs, .cons mirrors mirrorsAll, ?_⟩
    rw [unsourcedAll, unsourcedAll, same, sameAll]

/-- A tree that can be written has the written node for its own, but for the sources. -/
theorem Full.written {f : Filter} (full : f.Full) (paths : ∀ l ∈ f.leaves, 2 ≤ l.path.length) :
    ∃ g, Mirrors f.written g ∧ g.unsourced = f.unsourced := by
  induction full with
  | leaf l =>
    have hlength : 2 ≤ l.path.length := paths l (by simp [leaves])
    exact ⟨_, .leaf l.operand hlength (symbol_mem_tokenTable l.comparison), rfl⟩
  | not _ ih =>
    obtain ⟨g, mirrors, same⟩ := ih paths
    exact ⟨_, .not mirrors, by rw [unsourced, unsourced, same]⟩
  | and hne _ ih =>
    simp only [leaves, leavesOf_eq, List.mem_flatMap] at paths
    obtain ⟨gs, mirrors, same⟩ :=
      mirrorsAll_written fun f hf => ih f hf fun l hl => paths l ⟨f, hf, hl⟩
    exact ⟨_, .and (writtenAll_ne_nil hne) mirrors, by rw [unsourced, unsourced, same]⟩
  | or hne _ ih =>
    simp only [leaves, leavesOf_eq, List.mem_flatMap] at paths
    obtain ⟨gs, mirrors, same⟩ :=
      mirrorsAll_written fun f hf => ih f hf fun l hl => paths l ⟨f, hf, hl⟩
    exact ⟨_, .or (writtenAll_ne_nil hne) mirrors, by rw [unsourced, unsourced, same]⟩

/-- The reader accepts exactly the filters within its bounds and gives the tree of each; a tree
that is written within the bounds is read back, but for the sources of its leaves. -/
theorem reader_exact (bounds : Bounds) (node : Json) (f : Filter) :
    ((∃ g, parse bounds node = .ok g) ↔
      ∃ depth leaves, IsFilter node depth leaves ∧
        depth ≤ bounds.maxDepth ∧ leaves ≤ bounds.maxLeaves) ∧
    (∀ g, parse bounds node = .ok g → Mirrors node g) ∧
    (f.Full → (∀ l ∈ f.leaves, 2 ≤ l.path.length) →
      f.depth ≤ bounds.maxDepth → f.leafCount ≤ bounds.maxLeaves →
      ∃ g, parse bounds f.written = .ok g ∧ g.unsourced = f.unsourced) := by
  refine ⟨⟨?accepted, ?accepts⟩, fun g h => (parse_eq_ok.mp h).1, ?readBack⟩
  case accepted =>
    rintro ⟨g, h⟩
    obtain ⟨mirrors, within⟩ := parse_eq_ok.mp h
    exact ⟨g.depth, g.leafCount, mirrors.isFilter, within⟩
  case accepts =>
    rintro ⟨depth, leaves, filter, within⟩
    obtain ⟨g, mirrors, rfl, rfl⟩ := filter.tree
    exact ⟨g, parse_eq_ok.mpr ⟨mirrors, within⟩⟩
  case readBack =>
    intro full paths hdepth hleaves
    obtain ⟨g, mirrors, same⟩ := full.written paths
    rw [← depth_unsourced, ← same, depth_unsourced] at hdepth
    rw [← leafCount_unsourced, ← same, leafCount_unsourced] at hleaves
    exact ⟨g, parse_eq_ok.mpr ⟨mirrors, hdepth, hleaves⟩, same⟩

namespace Shapes

def likeNode : Json := leafNode ["Book", "title"] "like" (.string "%a%")

def inNode : Json := leafNode ["Book", "tags", "rank"] "in_" (.array [.int 1, .null])

def node : Json :=
  .array [.string "and", .array [.array [.string "not", likeNode],
    .array [.string "or", .array [inNode]]]]

theorem node_isFilter : IsFilter node 3 2 := by
  have hlike : ("like", Comparison.like) ∈ Comparison.tokenTable := by decide
  have hin : ("in_", Comparison.isIn) ∈ Comparison.tokenTable := by decide
  have like : IsFilter likeNode 1 1 := .leaf _ (by decide) hlike
  have isIn : IsFilter inNode 1 1 := .leaf _ (by decide) hin
  exact .and (by simp) (.cons (.not like) (.cons (.or (by simp) (.cons isIn .nil)) .nil))

/-- The tree of the node, without sources. -/
def tree : Filter :=
  .and [.not (.leaf ⟨["Book", "title"], .like, .string "%a%", .null⟩),
    .or [.leaf ⟨["Book", "tags", "rank"], .isIn, .array [.int 1, .null], .null⟩]]

theorem tree_full : tree.Full := by
  refine .and (by simp) fun child hchild => ?_
  rcases List.mem_pair.mp hchild with rfl | rfl
  · exact .not (.leaf _)
  · exact .or (by simp) (by simpa using Full.leaf _)

end Shapes

theorem sample_accepted_and_read_back :
    (∃ g, parse ⟨3, 2⟩ Shapes.node = .ok g) ∧
    ∃ g, parse ⟨3, 2⟩ Shapes.tree.written = .ok g ∧ g.unsourced = Shapes.tree.unsourced := by
  obtain ⟨accepted, -, readBack⟩ := reader_exact ⟨3, 2⟩ Shapes.node Shapes.tree
  exact ⟨accepted.mpr ⟨3, 2, Shapes.node_isFilter, by decide, by decide⟩,
    readBack Shapes.tree_full (by decide) (by decide) (by decide)⟩

end Filter

end FieldSearch
