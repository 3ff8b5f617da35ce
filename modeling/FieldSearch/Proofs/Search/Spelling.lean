import FieldSearch.Proofs.Filter.Grammar
import FieldSearch.Proofs.Search.Reach
import FieldSearch.Proofs.Sql.Shape
import FieldSearch.Proofs.Text.Normal

/-!
# Spellings of one text

Texts with one decomposition are one text to a search that decomposes operands. So filters that
differ only in how such texts are spelled, where they are compared with strings, have the same plan
or fail with the same code, and the strings of a plan are decomposed.
-/

namespace FieldSearch

/-! ### Outcomes -/

/-- Both succeed, with related results, or both fail with the same code. -/
inductive SameOutcome {α β : Type} (R : α → β → Prop) :
    Except SearchError α → Except SearchError β → Prop
  | ok {a : α} {b : β} : R a b → SameOutcome R (.ok a) (.ok b)
  | error {e e' : SearchError} : e.code = e'.code → SameOutcome R (.error e) (.error e')

namespace SameOutcome

variable {α β γ δ : Type} {R : α → β → Prop} {S : γ → δ → Prop}
  {x : Except SearchError α} {y : Except SearchError β}

theorem of_eq {R : α → α → Prop} (same : ∀ a, R a a) (x : Except SearchError α) :
    SameOutcome R x x := by
  cases x with
  | error e => exact .error rfl
  | ok a => exact .ok (same a)

theorem bind {f : α → Except SearchError γ} {g : β → Except SearchError δ}
    (first : SameOutcome R x y) (rest : ∀ a b, R a b → SameOutcome S (f a) (g b)) :
    SameOutcome S (x >>= f) (y >>= g) := by
  cases first with
  | ok h => exact rest _ _ h
  | error h => exact .error h

theorem map {f : α → γ} {g : β → δ} (h : SameOutcome R x y) (rel : ∀ a b, R a b → S (f a) (g b)) :
    SameOutcome S (f <$> x) (g <$> y) := by
  cases h with
  | ok h => exact .ok (rel _ _ h)
  | error h => exact .error h

theorem exists_ok {a : α} (h : SameOutcome R (.ok a) y) : ∃ b, y = .ok b ∧ R a b := by
  cases h with
  | ok h => exact ⟨_, rfl, h⟩

end SameOutcome

/-! ### Respelled filters -/

/-- The values are the same, or texts with one decomposition. -/
inductive Json.Respells : Json → Json → Prop
  | same (j : Json) : Respells j j
  | text {s s' : String} : Text.nfd s = Text.nfd s' → Respells (.string s) (.string s')

/-- The operands are the same but for the spelling of texts, by themselves or in a list. -/
inductive Operand.Respells : Json → Json → Prop
  | value {j j' : Json} : j.Respells j' → Respells j j'
  | list {items items' : List Json} : List.Forall₂ Json.Respells items items' →
      Respells (.array items) (.array items')

namespace Scope

/-- The path leads to a string. -/
def ReachesText (scope : Scope) (path : List String) : Prop :=
  ∃ via e a, scope.Reaches path via e a ∧ a.type = .string

theorem ReachesText.length {scope : Scope} {path : List String} (h : scope.ReachesText path) :
    2 ≤ path.length := by
  obtain ⟨via, e, a, reaches, -⟩ := h
  cases reaches <;> simp

mutual

/-- The nodes are the same but for the spelling of texts that are compared with strings. -/
inductive Respells (scope : Scope) : Json → Json → Prop
  | same (node : Json) : Respells scope node node
  | leaf {names : List String} (token : String) {operand operand' : Json} :
      scope.ReachesText names → Operand.Respells operand operand' →
      Respells scope (Filter.leafNode names token operand) (Filter.leafNode names token operand')
  | not {arg arg' : Json} : Respells scope arg arg' →
      Respells scope (.array [.string "not", arg]) (.array [.string "not", arg'])
  | and {nodes nodes' : List Json} : RespellsAll scope nodes nodes' →
      Respells scope (.array [.string "and", .array nodes]) (.array [.string "and", .array nodes'])
  | or {nodes nodes' : List Json} : RespellsAll scope nodes nodes' →
      Respells scope (.array [.string "or", .array nodes]) (.array [.string "or", .array nodes'])

inductive RespellsAll (scope : Scope) : List Json → List Json → Prop
  | nil : RespellsAll scope [] []
  | cons {node node' : Json} {rest rest' : List Json} : Respells scope node node' →
      RespellsAll scope rest rest' → RespellsAll scope (node :: rest) (node' :: rest')

end

/-- The trees are the same but for the sources of leaves and the spelling of texts that are compared
with strings. -/
inductive TreeRespells (scope : Scope) : Filter → Filter → Prop
  | same (f : Filter) : TreeRespells scope f f
  | leaf {path : List String} (comparison : Comparison) {operand operand' : Json}
      (source source' : Json) : scope.ReachesText path → Operand.Respells operand operand' →
      TreeRespells scope (.leaf ⟨path, comparison, operand, source⟩)
        (.leaf ⟨path, comparison, operand', source'⟩)
  | not {child child' : Filter} : TreeRespells scope child child' →
      TreeRespells scope (.not child) (.not child')
  | and {children children' : List Filter} :
      List.Forall₂ (TreeRespells scope) children children' →
      TreeRespells scope (.and children) (.and children')
  | or {children children' : List Filter} :
      List.Forall₂ (TreeRespells scope) children children' →
      TreeRespells scope (.or children) (.or children')

variable {scope : Scope}

/-! ### Reading -/

section Reading

open FieldSearch.Filter

theorem measure_leafNode {names : List String} (hlength : 2 ≤ names.length) (token : String)
    (operand : Json) : measure (leafNode names token operand) = .single := by
  rw [measure.eq_def]
  split
  next heq => exact absurd heq (leafNode_ne hlength _ _ _ _)
  next => rfl

mutual

theorem Respells.measure {node node' : Json} (h : scope.Respells node node') :
    FieldSearch.measure node = FieldSearch.measure node' := by
  cases h with
  | same => rfl
  | leaf token hnames => rw [measure_leafNode hnames.length, measure_leafNode hnames.length]
  | not child => simp [FieldSearch.measure, child.measure]
  | and children => simp [FieldSearch.measure, children.measureAll]
  | or children => simp [FieldSearch.measure, children.measureAll]

theorem RespellsAll.measureAll {nodes nodes' : List Json} (h : scope.RespellsAll nodes nodes') :
    FieldSearch.measureAll nodes = FieldSearch.measureAll nodes' := by
  cases h with
  | nil => rfl
  | cons first rest =>
    rw [FieldSearch.measureAll, FieldSearch.measureAll, first.measure, rest.measureAll]

end

/-- A leaf is read with its operand, or refused for its token. -/
theorem readNode_leafNode_respells {names : List String} (token : String) {operand operand' : Json}
    (hnames : scope.ReachesText names) (h : Operand.Respells operand operand') {bounds : Bounds}
    {level : Nat} (shallow : ¬ bounds.maxDepth < level) :
    SameOutcome scope.TreeRespells (readNode bounds level (leafNode names token operand))
      (readNode bounds level (leafNode names token operand')) := by
  have read : ∀ operand, readNode bounds level (leafNode names token operand) =
      readLeaf (leafNode names token operand) (names.map .string) (.string token) operand := by
    intro operand
    rw [leafNode, readNode_items shallow, readItems_names hnames.length]
    exact fun op arg heq => leafNode_ne hnames.length _ _ _ _ (congrArg Json.array heq)
  have path : ∀ node, readPath node (names.map .string) = .ok names := fun _ =>
    readPath_eq_ok.mpr rfl
  rw [read, read, readLeaf, readLeaf, path, path]
  cases known : Comparison.ofToken? token with
  | none =>
    simp only [bind, Except.bind, known]
    exact .error rfl
  | some comparison =>
    simp only [bind, Except.bind, known]
    exact .ok (.leaf comparison _ _ hnames h)

mutual

theorem Respells.readNode {node node' : Json} (h : scope.Respells node node')
    (bounds : Bounds) (level : Nat) :
    SameOutcome scope.TreeRespells (Filter.readNode bounds level node)
      (Filter.readNode bounds level node') := by
  by_cases shallow : bounds.maxDepth < level
  · rw [readNode.eq_def, if_pos shallow, readNode.eq_def, if_pos shallow]
    exact .error rfl
  · cases h with
    | same => exact .of_eq .same _
    | leaf token hnames operand => exact readNode_leafNode_respells token hnames operand shallow
    | not child =>
      rw [readNode_not shallow, readNode_not shallow]
      exact (child.readNode bounds (level + 1)).map fun _ _ => .not
    | and children =>
      cases children with
      | nil => exact .of_eq .same _
      | cons first rest =>
        rw [readNode_group shallow (.inl rfl) (List.cons_ne_nil _ _),
          readNode_group shallow (.inl rfl) (List.cons_ne_nil _ _)]
        exact ((RespellsAll.cons first rest).readNodes bounds (level + 1)).map fun _ _ => .and
    | or children =>
      cases children with
      | nil => exact .of_eq .same _
      | cons first rest =>
        rw [readNode_group shallow (.inr rfl) (List.cons_ne_nil _ _),
          readNode_group shallow (.inr rfl) (List.cons_ne_nil _ _)]
        exact ((RespellsAll.cons first rest).readNodes bounds (level + 1)).map fun _ _ => .or

theorem RespellsAll.readNodes {nodes nodes' : List Json} (h : scope.RespellsAll nodes nodes')
    (bounds : Bounds) (level : Nat) :
    SameOutcome (List.Forall₂ scope.TreeRespells) (Filter.readNodes bounds level nodes)
      (Filter.readNodes bounds level nodes') := by
  cases h with
  | nil => exact .ok .nil
  | cons first rest =>
    rw [Filter.readNodes, Filter.readNodes]
    refine (first.readNode bounds level).bind fun f f' hf => ?_
    exact (rest.readNodes bounds level).bind fun fs fs' hfs => .ok (.cons hf hfs)

end

/-- Respelled filters are read as respelled trees, or refused with the same code. -/
theorem Respells.parse {node node' : Json} (h : scope.Respells node node') (bounds : Bounds) :
    SameOutcome scope.TreeRespells (Filter.parse bounds node) (Filter.parse bounds node') := by
  simp only [Filter.parse, Complexity.ofFilter_eq, h.measure]
  split
  next => exact .error rfl
  next => exact h.readNode bounds 1

end Reading

/-! ### Resolving -/

section Resolving

variable (normalizes : scope.normalize = true)

include normalizes

theorem value_text (s : String) :
    scope.value .string (.string s) = .ok (.string (Text.nfd s)) := by
  simp [value, convert?, Json.string?, normalizes]

theorem value_respells {j j' : Json} (h : j.Respells j') :
    scope.value .string j = scope.value .string j' := by
  cases h with
  | same => rfl
  | text same => rw [value_text normalizes, value_text normalizes, same]

theorem values_respell {js js' : List Json} (h : List.Forall₂ Json.Respells js js') :
    scope.values .string js = scope.values .string js' := by
  induction h with
  | nil => rfl
  | cons first _ ih => rw [values, values, value_respells normalizes first, ih]

/-- The texts are decomposed before a pattern is asked for, so that they are the same by then. -/
theorem operand_respells {j j' : Json} (h : Operand.Respells j j') (comparison : Comparison)
    (operand : Operand) : scope.operand comparison .string j = .ok operand ↔
      scope.operand comparison .string j' = .ok operand := by
  cases h with
  | value h =>
    cases h with
    | same => rfl
    | text same => simp only [operand_string, value_text normalizes, same]
  | @list items items' h =>
    unfold Scope.operand
    split
    next => simp only [values_respell normalizes h]
    next =>
      -- a list is no string, whatever is in it
      simp [Json.isNull, value, convert?, Json.string?, bind, Except.bind]

variable (consistent : scope.registry.Consistent)
  (start : scope.registry.searchable? scope.root.name = some scope.root)

include consistent start

theorem leaf_respells {path : List String} (comparison : Comparison) {operand operand' : Json}
    (source source' : Json) (hpath : scope.ReachesText path)
    (h : Operand.Respells operand operand') :
    SameOutcome (· = ·) (scope.leaf ⟨path, comparison, operand, source⟩)
      (scope.leaf ⟨path, comparison, operand', source'⟩) := by
  obtain ⟨via, e, a, reaches, htype⟩ := hpath
  have same := operand_respells normalizes h comparison
  rw [reaches.leaf consistent start, reaches.leaf consistent start, compareLeaf, compareLeaf, htype]
  split
  next => exact .error rfl
  next =>
    cases hx : scope.operand comparison .string operand with
    | ok x =>
      simp only [(same x).mp hx]
      exact .ok rfl
    | error fault =>
      cases hy : scope.operand comparison .string operand' with
      | ok y => cases hx.symm.trans ((same y).mpr hy)
      | error fault' => exact .error rfl

/-- Respelled trees resolve to the same, or fail with the same code. -/
theorem TreeRespells.resolve {f f' : Filter} (h : scope.TreeRespells f f') :
    SameOutcome (· = ·) (scope.resolve f) (scope.resolve f') := by
  have all : ∀ {fs fs' : List Filter},
      (∀ f ∈ fs, ∀ {f'}, scope.TreeRespells f f' →
        SameOutcome (· = ·) (scope.resolve f) (scope.resolve f')) →
      List.Forall₂ scope.TreeRespells fs fs' →
      SameOutcome (· = ·) (scope.resolveAll fs) (scope.resolveAll fs') := by
    intro fs fs' each h
    induction h with
    | nil => exact .ok rfl
    | cons first _ ih =>
      rw [List.forall_mem_cons] at each
      rw [resolveAll, resolveAll]
      refine (each.1 first).bind fun r r' hr => ?_
      refine (ih each.2).bind fun rs rs' hrs => ?_
      rw [hr, hrs]
      exact .ok rfl
  induction f using Filter.induct generalizing f' with
  | leaf l =>
    cases h with
    | same => exact .of_eq (fun _ => rfl) _
    | leaf comparison source source' hpath operand =>
      rw [Scope.resolve, Scope.resolve]
      exact (leaf_respells normalizes consistent start comparison source source' hpath
        operand).map fun _ _ => congrArg _
  | not child ih =>
    cases h with
    | same => exact .of_eq (fun _ => rfl) _
    | not hchild =>
      rw [Scope.resolve, Scope.resolve]
      exact (ih hchild).map fun _ _ => congrArg _
  | and children ih =>
    cases h with
    | same => exact .of_eq (fun _ => rfl) _
    | and hchildren =>
      rw [Scope.resolve, Scope.resolve]
      exact (all (fun f hf _ => ih f hf) hchildren).map fun _ _ => congrArg _
  | or children ih =>
    cases h with
    | same => exact .of_eq (fun _ => rfl) _
    | or hchildren =>
      rw [Scope.resolve, Scope.resolve]
      exact (all (fun f hf _ => ih f hf) hchildren).map fun _ _ => congrArg _

end Resolving

end Scope

/-! ### The values of a plan -/

def Operand.values : Operand → List Scalar
  | single v => [v]
  | list vs => vs

/-- The values that a leaf compares with. -/
def ResolvedLeaf.values : ResolvedLeaf → List Scalar
  | compare _ _ _ _ operand => operand.values
  | presence _ _ => []

namespace Predicate

theorem mem_ofOperand_operands {column : Column} {comparison : Comparison} {operand : Operand}
    {v : Scalar} (h : v ∈ (ofOperand column comparison operand).operands) :
    v ∈ operand.values := by
  cases operand with
  | single w =>
    cases w with
    | null =>
      rw [ofOperand] at h
      split at h <;> cases h
    | _ => exact h
  | list vs =>
    rw [ofOperand, ofList] at h
    -- the values that are known, or a test for null, or both
    split at h
    · exact List.mem_of_mem_filter h
    · split at h
      · cases h
      · simp only [operands, allOperands, List.append_nil] at h
        exact List.mem_of_mem_filter h

theorem mem_ofLeaf_operands {joins : JoinPlan} {l : ResolvedLeaf} {v : Scalar}
    (h : v ∈ (ofLeaf joins l).1.operands) : v ∈ l.values := by
  cases l with
  | compare via entity name comparison operand =>
    cases via with
    | none => exact mem_ofOperand_operands h
    | some t => exact mem_ofOperand_operands h
  | presence t present => cases h

/-- The operands of a predicate are values of the leaves that it is made of. -/
theorem mem_lowered_operands {p : JoinPlan} {f : ResolvedFilter} (serves : p.Serves f) {v : Scalar}
    (h : v ∈ (lowered p f).operands) : ∃ l ∈ f.leaves, v ∈ l.values := by
  have all : ∀ {fs : List ResolvedFilter},
      (∀ f ∈ fs, v ∈ (lowered p f).operands → ∃ l ∈ f.leaves, v ∈ l.values) →
      v ∈ (fs.map (lowered p)).flatMap operands →
      ∃ l ∈ fs.flatMap ResolvedFilter.leaves, v ∈ l.values := by
    intro fs each h
    obtain ⟨_, hpart, hv⟩ := List.mem_flatMap.mp h
    obtain ⟨f, hf, rfl⟩ := List.mem_map.mp hpart
    obtain ⟨l, hl, hvalues⟩ := each f hf hv
    exact ⟨l, List.mem_flatMap.mpr ⟨f, hf, hl⟩, hvalues⟩
  induction f using ResolvedFilter.induct with
  | leaf l => exact ⟨l, List.mem_cons_self, mem_ofLeaf_operands h⟩
  | not child ih => exact ih serves.child h
  | and fs ih =>
    rw [lowered_and serves, operands, allOperands_eq] at h
    rw [ResolvedFilter.leaves, ResolvedFilter.leavesOf_eq]
    exact all (fun f hf => ih f hf (serves.and f hf)) h
  | or fs ih =>
    rw [lowered_or serves, operands, allOperands_eq] at h
    rw [ResolvedFilter.leaves, ResolvedFilter.leavesOf_eq]
    exact all (fun f hf => ih f hf (serves.or f hf)) h

end Predicate

namespace Scope

variable {scope : Scope} (normalizes : scope.normalize = true)

include normalizes

theorem value_decomposed {type : ScalarType} {j : Json} {s : String}
    (h : scope.value type j = .ok (.string s)) : Text.nfd s = s := by
  rcases value_type h with ⟨-, heq⟩ | ⟨-, typed⟩
  · cases heq
  · cases typed
    cases j with
    | string s' =>
      rw [value_text normalizes] at h
      cases h
      exact Text.nfd_nfd s'
    | _ => simp [value, convert?, Json.string?] at h

theorem operand_decomposed {comparison : Comparison} {type : ScalarType} {j : Json}
    {operand : Operand} (h : scope.operand comparison type j = .ok operand) {s : String}
    (hs : .string s ∈ operand.values) : Text.nfd s = s := by
  unfold Scope.operand at h
  split at h
  next =>
    split at h
    next items =>
      obtain ⟨vs, hvs, rfl⟩ := map_eq_ok.mp h
      obtain ⟨j, -, hj⟩ := forall₂_mem_right (values_eq_ok.mp hvs) hs
      exact value_decomposed normalizes hj
    next => cases h
  next =>
    split at h
    next => cases h
    next =>
      obtain ⟨v, hv, h⟩ := bind_eq_ok.mp h
      obtain ⟨_, -, h⟩ := bind_eq_ok.mp h
      cases h
      cases List.mem_singleton.mp hs
      exact value_decomposed normalizes hv

variable (consistent : scope.registry.Consistent)
  (start : scope.registry.searchable? scope.root.name = some scope.root)

include consistent start

/-- The strings that a resolved leaf compares with are decomposed. -/
theorem leaf_decomposed {l : Leaf} {resolved : ResolvedLeaf} (h : scope.leaf l = .ok resolved)
    {s : String} (hs : .string s ∈ resolved.values) : Text.nfd s = s := by
  obtain ⟨path, comparison, operand, source⟩ := l
  rcases reaches_of_leaf consistent start h with ⟨via, e, a, reaches⟩ | ⟨r, -, -, h⟩
  · rw [reaches.leaf consistent start, compareLeaf] at h
    split at h
    next => cases h
    next =>
      split at h
      next operand hoperand =>
        cases h
        exact operand_decomposed normalizes hoperand hs
      next => cases h
  · rw [presenceLeaf] at h
    split at h
    next => cases h
    next =>
      cases h
      cases hs

end Scope

/-- On a compiler that decomposes operands, filters that differ only in the spelling of texts that
are compared with strings have one plan, and so the same statements, or are refused with one code.
Every string in a plan is decomposed. -/
theorem spellings_have_one_plan {entities : List Entity} {aliases : List EntityAlias}
    {registry : Registry} (built : Registry.build entities aliases = .ok registry)
    {config : Config} (normalizes : config.normalizeStrings = true) {searched : String}
    {root : Entity} (start : (Compiler.mk registry config).root searched = .ok root) :
    (∀ filter filter', ((Compiler.mk registry config).scope root).Respells filter filter' →
      ∀ orderBy page, SameOutcome (fun plan plan' => plan = plan' ∧
          Sql.select registry plan = Sql.select registry plan' ∧
          Sql.count registry plan = Sql.count registry plan')
        ((Compiler.mk registry config).compile searched filter orderBy page)
        ((Compiler.mk registry config).compile searched filter' orderBy page)) ∧
    ∀ filter orderBy page plan,
      (Compiler.mk registry config).compile searched filter orderBy page = .ok plan →
      ∀ s, .string s ∈ plan.predicate.operands → Text.nfd s = s := by
  have consistent := Registry.build_consistent built
  have searchable := Compiler.scope_searchable start
  constructor
  · intro filter filter' respells orderBy page
    have resolve : SameOutcome (· = ·) ((Compiler.mk registry config).resolve root filter)
        ((Compiler.mk registry config).resolve root filter') :=
      (respells.parse config.bounds).bind fun f f' h => h.resolve normalizes consistent searchable
    rw [Compiler.compile, Compiler.compile, start]
    show SameOutcome _ (Compiler.resolve _ root filter >>= _)
      (Compiler.resolve _ root filter' >>= _)
    refine resolve.bind fun resolved resolved' same => ?_
    rw [same]
    exact .of_eq (fun _ => ⟨rfl, rfl, rfl⟩) _
  · intro filter orderBy page plan compiled s hs
    obtain ⟨root', resolved, terms, start', hresolved, -, rfl⟩ := Compiler.compile_eq_ok compiled
    cases start.symm.trans start'
    obtain ⟨f, -, hresolve⟩ := bind_eq_ok.mp hresolved
    obtain ⟨l, hl, hvalue⟩ := Predicate.mem_lowered_operands (JoinPlan.ofFilter_serves resolved) hs
    obtain ⟨leaf, -, hleaf⟩ := forall₂_mem_right (Scope.resolve_leaf hresolve) hl
    exact Scope.leaf_decomposed normalizes consistent searchable hleaf hvalue

namespace Registry.Sample

/-- Books of a writer that is not called one name, with an editor who is called another or not at
all. -/
def signed (writer editor : String) : Json :=
  .array [.string "and", .array [
    .array [.string "not", Filter.leafNode ["Writer", "name"] "=" (.string writer)],
    Filter.leafNode ["Book", "editor", "name"] "in" (.array [.string editor, .null])]]

end Registry.Sample

open Registry.Sample in
/-- Letters with an accent, and the sign for one of them. -/
theorem signed_twice :
    ∃ plan,
      (Compiler.mk library {}).compile "Book" (signed "Zo\u00E9" "\u212B") .null none = .ok plan ∧
      (Compiler.mk library {}).compile "Book" (signed "Zoe\u0301" "A\u030A") .null none =
        .ok plan ∧
      plan.predicate.operands = [.string "Zoe\u0301", .string "A\u030A"] ∧
      Text.nfd "Zoe\u0301" = "Zoe\u0301" := by
  obtain ⟨one, decomposed⟩ := spellings_have_one_plan library_built
    (rfl : ({} : Config).normalizeStrings = true) library_root
  have namesAuthor : library.Names "Writer" author :=
    ⟨List.mem_cons_self, .inr ⟨writer, List.mem_cons_self, rfl, rfl⟩⟩
  have admits : library.Admits "Writer" "name" := by
    intro a ha _ listed hlisted
    cases List.mem_singleton.mp ha
    cases hlisted
    exact List.mem_cons_self
  have byWriter : ((Compiler.mk library {}).scope book).ReachesText ["Writer", "name"] :=
    ⟨_, author, _, .other (by decide) namesAuthor rfl admits rfl rfl, rfl⟩
  have byEditor : ((Compiler.mk library {}).scope book).ReachesText ["Book", "editor", "name"] :=
    ⟨_, author, _, .related rfl rfl rfl, rfl⟩
  have zoe : Text.nfd "Zo\u00E9" = Text.nfd "Zoe\u0301" := by decide +kernel
  have angstrom : Text.nfd "\u212B" = Text.nfd "A\u030A" := by decide +kernel
  have respells : ((Compiler.mk library {}).scope book).Respells (signed "Zo\u00E9" "\u212B")
      (signed "Zoe\u0301" "A\u030A") := by
    refine .and (.cons (.not (.leaf "=" byWriter (.value (.text zoe)))) (.cons ?_ .nil))
    exact .leaf "in" byEditor (.list (.cons (.text angstrom) (.cons (.same .null) .nil)))
  have evaluated : ((Compiler.mk library {}).compile "Book" (signed "Zo\u00E9" "\u212B") .null
      none).toOption.map (·.predicate.operands) =
        some [.string "Zoe\u0301", .string "A\u030A"] := by decide +kernel
  have same := one _ _ respells .null none
  cases compiled : (Compiler.mk library {}).compile "Book" (signed "Zo\u00E9" "\u212B") .null
      none with
  | error e =>
    rw [compiled] at evaluated
    cases evaluated
  | ok plan =>
    rw [compiled] at evaluated same
    have operands : plan.predicate.operands = _ := Option.some.inj evaluated
    obtain ⟨plan', compiled', rfl, -⟩ := same.exists_ok
    exact ⟨plan, rfl, compiled', operands,
      decomposed _ _ _ _ compiled _ (by simp [operands])⟩

end FieldSearch
