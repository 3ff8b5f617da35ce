import FieldSearch.Proofs.Filter.Membership
import FieldSearch.Proofs.Search.Direct
import FieldSearch.Proofs.Search.Implicit
import FieldSearch.Proofs.Search.Renaming

/-!
# Membership as a disjunction of equalities

A membership leaf resolves just if the equality with every member does. It has the truth value of
their disjunction on every row, also where it ranges over related rows, and takes the same relation,
so the disjunction in its place leaves the joins of the plan as they are.
-/

namespace FieldSearch

open Sql

/-! ### Truth -/

namespace Sql.Truth

variable {α β : Type}

theorem any_known (known : α → Bool) (as : List α) :
    any (as.map fun a => some (known a)) = some (as.any known) := by
  induction as with
  | nil => rfl
  | cons a rest ih =>
    have h : any (some (known a) :: rest.map fun a => some (known a)) =
        or (some (known a)) (any (rest.map fun a => some (known a))) := rfl
    rw [List.map_cons, h, ih, List.any_cons]
    cases known a <;> cases rest.any known <;> rfl

theorem any_unknown {as : List α} (full : as ≠ []) : any (as.map fun _ => none) = none := by
  induction as with
  | nil => exact absurd rfl full
  | cons a rest ih =>
    have h : any (none :: rest.map fun _ => none) = or none (any (rest.map fun _ => none)) := rfl
    rw [List.map_cons, h]
    cases rest with
    | nil => rfl
    | cons b others =>
      rw [ih (List.cons_ne_nil b others)]
      rfl

/-- Some alternative holds of some element just if some element has one of them. -/
theorem any_exists (truth : β → α → Truth) (bs : List β) (as : List α) :
    any (as.map fun a => some (bs.any fun b => truth b a == some true)) =
      some (bs.any fun b => any (as.map (truth b)) == some true) := by
  rw [any_known, Option.some.injEq, Bool.eq_iff_iff]
  simp only [List.any_eq_true, beq_iff_eq, any_eq_true, List.mem_map]
  constructor
  · rintro ⟨a, ha, b, hb, h⟩
    exact ⟨b, hb, a, ha, h⟩
  · rintro ⟨b, hb, a, ha, h⟩
    exact ⟨a, ha, b, hb, h⟩

end Sql.Truth

theorem Operand.truth_list (column : StorageType × Value) (ws : List Scalar) :
    (Operand.list ws).truth .isIn column =
      Truth.any (ws.map fun w => (Operand.single w).truth .eq column) := by
  rw [Operand.truth]
  refine congrArg Truth.any (List.map_congr_left fun w _ => ?_)
  cases w <;> rfl

/-- Membership has the truth value of the disjunction, over related rows too. -/
theorem ResolvedLeaf.truth_list (registry : Registry) (s : Store) (row : Store.Record)
    (via : Option Traversal) (entity name : String) {ws : List Scalar} (full : ws ≠ []) :
    (compare via entity name .isIn (.list ws)).truth registry s row =
      Truth.any (ws.map fun w =>
        (compare via entity name .eq (.single w)).truth registry s row) := by
  cases via with
  | none => simp only [truth, Operand.truth_list]
  | some t =>
    simp only [truth]
    cases t.binding? registry with
    | none => exact (Truth.any_unknown full).symm
    | some b =>
      simp only [Operand.truth_list]
      exact (Truth.any_exists (fun (r : Store.Record) w =>
        (Operand.single w).truth .eq (r.column name)) _ ws).symm

/-! ### Joins -/

namespace JoinPlan

/-- Taking one relation again and again joins it once. -/
theorem Has.allocateAll_again {α : Type} {p : JoinPlan} {via : Option Traversal}
    (h : ∀ t, via = some t → p.Has t) (as : List α) :
    p.allocateAll (as.filterMap fun _ => via) = p := by
  induction as with
  | nil => rfl
  | cons a rest ih =>
    cases via with
    | none => exact ih
    | some t =>
      obtain ⟨o, -, same⟩ := (h t rfl).allocate
      simp only [List.filterMap_cons, allocateAll_cons, same, ih]

theorem allocateAll_again {α : Type} (p : JoinPlan) (via : Option Traversal) {as : List α}
    (full : as ≠ []) : p.allocateAll (as.filterMap fun _ => via) = p.allocateAll via.toList := by
  obtain ⟨a, rest, rfl⟩ := List.exists_cons_of_ne_nil full
  cases via with
  | none => exact Has.allocateAll_again (by simp) rest
  | some t =>
    simp only [List.filterMap_cons, allocateAll_cons]
    exact Has.allocateAll_again (by simpa using has_allocate p t) rest

end JoinPlan

/-! ### Equivalent filters -/

/-- The filters have the same truth value on every row and take the same relations. -/
structure ResolvedFilter.Equivalent (f f' : ResolvedFilter) : Prop where
  truth : ∀ registry s row, f'.truth registry s row = f.truth registry s row
  joins : ∀ p : JoinPlan, p.allocateAll f'.traversals = p.allocateAll f.traversals

namespace ResolvedFilter

theorem traversals_group (before after : List ResolvedFilter) (f : ResolvedFilter) :
    (leavesOf (before ++ f :: after)).filterMap (·.traversal?) =
      (leavesOf before).filterMap (·.traversal?) ++
        (f.traversals ++ (leavesOf after).filterMap (·.traversal?)) := by
  simp only [leavesOf_eq, List.flatMap_append, List.flatMap_cons, List.filterMap_append, traversals]

namespace Equivalent

variable {f f' : ResolvedFilter}

theorem not (h : f.Equivalent f') : (ResolvedFilter.not f).Equivalent (.not f') where
  truth registry s row := by rw [ResolvedFilter.truth, ResolvedFilter.truth, h.truth]
  joins := h.joins

theorem joinsOf (h : f.Equivalent f') (before after : List ResolvedFilter) (p : JoinPlan) :
    p.allocateAll ((leavesOf (before ++ f' :: after)).filterMap (·.traversal?)) =
      p.allocateAll ((leavesOf (before ++ f :: after)).filterMap (·.traversal?)) := by
  simp only [traversals_group, JoinPlan.allocateAll_append, h.joins]

theorem and (h : f.Equivalent f') (before after : List ResolvedFilter) :
    (ResolvedFilter.and (before ++ f :: after)).Equivalent (.and (before ++ f' :: after)) where
  truth registry s row := by
    simp only [ResolvedFilter.truth, truths_eq, List.map_append, List.map_cons, h.truth]
  joins := h.joinsOf before after

theorem or (h : f.Equivalent f') (before after : List ResolvedFilter) :
    (ResolvedFilter.or (before ++ f :: after)).Equivalent (.or (before ++ f' :: after)) where
  truth registry s row := by
    simp only [ResolvedFilter.truth, truths_eq, List.map_append, List.map_cons, h.truth]
  joins := h.joinsOf before after

end Equivalent

/-- Membership is equivalent to the disjunction of equalities. -/
theorem equivalent_membership (via : Option Traversal) (entity name : String) {ws : List Scalar}
    (full : ws ≠ []) :
    (leaf (.compare via entity name .isIn (.list ws))).Equivalent
      (.or (ws.map fun w => .leaf (.compare via entity name .eq (.single w)))) where
  truth registry s row := by
    simp only [truth, truths_eq, List.map_map, Function.comp_def,
      ResolvedLeaf.truth_list registry s row via entity name full]
  joins p := by
    have each : (ResolvedFilter.or (ws.map fun w =>
        .leaf (.compare via entity name .eq (.single w)))).traversals =
          ws.filterMap fun _ => via := by
      simp only [traversals, leaves, leavesOf_eq, List.flatMap_map, ← List.map_eq_flatMap,
        List.filterMap_map, Function.comp_def, ResolvedLeaf.traversal?]
    have one : (leaf (.compare via entity name .isIn (.list ws))).traversals = via.toList := by
      cases via <;> rfl
    rw [each, one, p.allocateAll_again via full]

end ResolvedFilter

/-! ### Paths of attributes -/

namespace Scope

variable {scope : Scope} {path : List String}

/-- All leaves with the path compare one attribute, or none of them resolves. -/
def Settles (scope : Scope) (path : List String)
    (resolve : Leaf → Except SearchError ResolvedLeaf) : Prop :=
  (∃ via e a, ∀ comparison operand source, resolve ⟨path, comparison, operand, source⟩ =
    scope.compareLeaf ⟨path, comparison, operand, source⟩ via e a) ∨
  ∀ comparison operand source resolved,
    resolve ⟨path, comparison, operand, source⟩ ≠ .ok resolved

theorem rootName_cases (path : List String) (name : String) :
    scope.Settles path (scope.rootName · name) ∨
      ∃ r ∈ scope.root.relations, r.name = name ∧ ∀ comparison operand source,
        scope.rootName ⟨path, comparison, operand, source⟩ name =
          presenceLeaf ⟨path, comparison, operand, source⟩ scope.root r := by
  cases ha : scope.root.attribute? name with
  | some a => exact .inl (.inl ⟨none, scope.root, a, fun _ _ _ => by simp only [rootName, ha]⟩)
  | none =>
    cases hr : scope.root.relation? name with
    | some r =>
      obtain ⟨hmem, hname⟩ := Entity.relation?_eq_some hr
      exact .inr ⟨r, hmem, hname, fun _ _ _ => by simp only [rootName, ha, hr]⟩
    | none =>
      refine .inl ?_
      cases hname : scope.registry.entityOrAlias? name with
      | none => exact .inr fun _ _ _ _ => by simp [rootName, ha, hr, hname]
      | some found =>
        obtain ⟨e, other⟩ := found
        cases hdefault : scope.root.defaultTraversal? name with
        | none =>
          exact .inr fun _ _ _ _ => by
            simp [rootName, ha, hr, hname, defaultTraversal, hdefault, bind, Except.bind]
        | some r =>
          cases hkey : e.primaryKeyAttribute?.filter fun a => other.all (·.allows a.name) with
          | none =>
            exact .inr fun _ _ _ _ => by
              simp [rootName, ha, hr, hname, defaultTraversal, hdefault, hkey, bind, Except.bind,
                throw, throwThe, MonadExceptOf.throw]
          | some key =>
            exact .inl ⟨some r, e, key, fun _ _ _ => by
              simp only [rootName, ha, hr, hname, defaultTraversal, hdefault, hkey, bind,
                Except.bind]⟩

theorem viaDefault_settles (first name : String) (e : Entity) (other : Option EntityAlias) :
    scope.Settles [first, name] (scope.viaDefault · e other name) := by
  by_cases found : other.all (·.allows name) = true ∧
      ∃ r, scope.root.defaultTraversal? first = some r ∧ ∃ a, e.attribute? name = some a
  · obtain ⟨allowed, r, hr, a, ha⟩ := found
    refine .inl ⟨some r, e, a, fun _ _ _ => ?_⟩
    simp only [viaDefault, defaultTraversal, Leaf.entity, List.headD_cons, hr, allowed, ha, bind,
      Except.bind, Bool.not_true, Bool.false_eq_true, if_false]
  · refine .inr fun _ _ _ _ h => found ?_
    obtain ⟨allowed, r, hr, a, ha, -⟩ := viaDefault_eq_ok.mp h
    exact ⟨allowed, r, hr, a, ha⟩

theorem viaRelation_settles (relation name : String) :
    scope.Settles path (scope.viaRelation · relation name) := by
  cases hr : scope.root.relation? relation with
  | none => exact .inr fun _ _ _ _ => by simp [viaRelation, hr]
  | some r =>
    cases ht : scope.registry.entity? r.target with
    | none => exact .inr fun _ _ _ _ => by simp [viaRelation, hr, ht]
    | some target =>
      cases ha : target.attribute? name with
      | none =>
        refine .inr fun _ _ _ _ => ?_
        simp only [viaRelation, hr, ht, ha]
        split <;> simp
      | some a =>
        exact .inl ⟨some r, target, a, fun _ _ _ => by simp only [viaRelation, hr, ht, ha]⟩

theorem Settles.congr {resolve resolve' : Leaf → Except SearchError ResolvedLeaf}
    (h : scope.Settles path resolve)
    (same : ∀ comparison operand source, resolve' ⟨path, comparison, operand, source⟩ =
      resolve ⟨path, comparison, operand, source⟩) : scope.Settles path resolve' := by
  simpa only [Settles, same] using h

/-- A leaf that resolves has a path of two names, or of three from the root. -/
theorem leaf_path {l : Leaf} {resolved : ResolvedLeaf} (h : scope.leaf l = .ok resolved) :
    (∃ first name, l.path = [first, name]) ∨
      ∃ relation name, l.path = [scope.root.name, relation, name] := by
  unfold leaf at h
  split at h
  next => cases h
  next =>
    split at h
    next => cases h
    next =>
      split at h
      next first name hpath => exact .inl ⟨first, name, hpath⟩
      next first relation name hpath =>
        split at h
        next hfirst => exact .inr ⟨relation, name, hfirst ▸ hpath⟩
        next => cases h
      next => cases h

/-- A path leads to one attribute, whatever it is compared with, or nowhere, or it names a relation
of the root. -/
theorem leaf_cases (start : scope.registry.searchable? scope.root.name = some scope.root)
    (path : List String) :
    scope.Settles path scope.leaf ∨
      ∃ r ∈ scope.root.relations, path = [scope.root.name, r.name] ∧ ∀ comparison operand source,
        scope.leaf ⟨path, comparison, operand, source⟩ =
          presenceLeaf ⟨path, comparison, operand, source⟩ scope.root r := by
  by_cases shape : (∃ first name, path = [first, name]) ∨
      ∃ relation name, path = [scope.root.name, relation, name]
  · rcases shape with ⟨first, name, rfl⟩ | ⟨relation, name, rfl⟩
    · by_cases hfirst : first = scope.root.name
      · subst hfirst
        rcases rootName_cases [scope.root.name, name] name with settles | ⟨r, hr, rfl, asks⟩
        · exact .inl (settles.congr fun _ _ _ => leaf_root start)
        · exact .inr ⟨r, hr, rfl, fun _ _ _ => (leaf_root start).trans (asks _ _ _)⟩
      · refine .inl ?_
        cases hsearch : scope.registry.searchableOrAlias? first with
        | none => exact .inr fun _ _ _ _ => by simp [leaf_hidden hsearch]
        | some found =>
          exact (viaDefault_settles first name found.1 found.2).congr fun _ _ _ =>
            leaf_other hfirst hsearch
    · exact .inl ((viaRelation_settles relation name).congr fun _ _ _ => leaf_relation start)
  · exact .inl (.inr fun _ _ _ _ h => shape (leaf_path h))

/-- A path that does not name a relation of the root leads to one attribute or nowhere. -/
theorem leaf_settles (start : scope.registry.searchable? scope.root.name = some scope.root)
    (scalar : ¬ scope.root.PathOfRelation path) : scope.Settles path scope.leaf :=
  (leaf_cases start path).resolve_right fun ⟨r, hr, hpath, _⟩ => scalar ⟨r, hr, hpath⟩

/-- A leaf that resolves with a string for its operand compares one attribute, as do all leaves with
its path. -/
theorem leaf_string (start : scope.registry.searchable? scope.root.name = some scope.root)
    {comparison : Comparison} {s : String} {source : Json} {resolved : ResolvedLeaf}
    (h : scope.leaf ⟨path, comparison, .string s, source⟩ = .ok resolved) :
    ∃ via e a, ∀ comparison operand source, scope.leaf ⟨path, comparison, operand, source⟩ =
      scope.compareLeaf ⟨path, comparison, operand, source⟩ via e a := by
  rcases leaf_cases start path with (compares | never) | ⟨r, -, -, asks⟩
  · exact compares
  · exact absurd h (never _ _ _ _)
  · rw [asks] at h
    simp [presenceLeaf, Json.isNull] at h

/-! ### Operands -/

theorem values_eq_ok {type : ScalarType} {js : List Json} {ws : List Scalar} :
    scope.values type js = .ok ws ↔
      List.Forall₂ (fun j w => scope.value type j = .ok w) js ws := by
  induction js generalizing ws with
  | nil => simp [values, eq_comm]
  | cons j rest ih =>
    simp only [values, bind_eq_ok, ih, List.forall₂_cons_left_iff]
    constructor
    · rintro ⟨w, hw, others, hrest, h⟩
      cases h
      exact ⟨w, others, hw, hrest, rfl⟩
    · rintro ⟨w, others, hw, hrest, rfl⟩
      exact ⟨w, hw, others, hrest, rfl⟩

variable {via : Option Relation} {e : Entity} {a : Attribute} {source : Json}
  {resolved : ResolvedLeaf}

/-- The comparison of the attribute of an entity with an operand. -/
def comparing (scope : Scope) (via : Option Relation) (e : Entity) (a : Attribute)
    (comparison : Comparison) (operand : Operand) : ResolvedLeaf :=
  .compare (via.map fun r => ⟨scope.root.name, r⟩) e.name a.name comparison operand

theorem compareLeaf_membership {vs : List Json} :
    scope.compareLeaf ⟨path, .isIn, .array vs, source⟩ via e a = .ok resolved ↔
      ∃ ws, List.Forall₂ (fun v w => scope.value a.type v = .ok w) vs ws ∧
        resolved = scope.comparing via e a .isIn (.list ws) := by
  have accepted : Comparison.isIn.accepts a.type = true := rfl
  simp only [compareLeaf, accepted, operand, comparing, ← values_eq_ok]
  cases scope.values a.type vs <;>
    simp [Functor.map, Except.map, eq_comm]

theorem compareLeaf_equality {v : Json} :
    scope.compareLeaf ⟨path, .eq, v, source⟩ via e a = .ok resolved ↔
      ∃ w, scope.value a.type v = .ok w ∧
        resolved = scope.comparing via e a .eq (.single w) := by
  have accepted : Comparison.eq.accepts a.type = true := rfl
  have unchecked : ∀ w, checkPattern .eq w = .ok () := fun w => by cases w <;> rfl
  simp only [compareLeaf, accepted, operand, comparing, unchecked]
  cases scope.value a.type v with
  | error fault => simp [Comparison.isOrdering, Comparison.isPattern, bind, Except.bind]
  | ok w =>
    simpa [Comparison.isOrdering, Comparison.isPattern, bind, Except.bind, pure, Except.pure]
      using eq_comm

/-- A string is one value, and has to be a pattern where one is asked for. -/
theorem operand_string {comparison : Comparison} {type : ScalarType} {s : String}
    {o : Operand} :
    scope.operand comparison type (.string s) = .ok o ↔
      comparison ≠ .isIn ∧ ∃ w, scope.value type (.string s) = .ok w ∧
        checkPattern comparison w = .ok () ∧ o = .single w := by
  unfold operand
  split
  next member => simp [member]
  next single =>
    rw [if_neg (by simp [Json.isNull])]
    constructor
    · intro h
      obtain ⟨w, hw, h⟩ := bind_eq_ok.mp h
      obtain ⟨_, checked, h⟩ := bind_eq_ok.mp h
      cases h
      exact ⟨single, w, hw, checked, rfl⟩
    · rintro ⟨-, w, hw, checked, rfl⟩
      exact bind_eq_ok.mpr ⟨w, hw, bind_eq_ok.mpr ⟨(), checked, rfl⟩⟩

theorem compareLeaf_string {comparison : Comparison} {s : String} :
    scope.compareLeaf ⟨path, comparison, .string s, source⟩ via e a = .ok resolved ↔
      comparison.accepts a.type = true ∧ comparison ≠ .isIn ∧
        ∃ w, scope.value a.type (.string s) = .ok w ∧ checkPattern comparison w = .ok () ∧
          resolved = scope.comparing via e a comparison (.single w) := by
  rw [compareLeaf]
  by_cases accepted : comparison.accepts a.type = true
  · simp only [accepted, Bool.not_true, Bool.false_eq_true, if_false, true_and]
    constructor
    · intro h
      split at h
      next o ho =>
        obtain ⟨single, w, hw, checked, rfl⟩ := operand_string.mp ho
        cases h
        exact ⟨single, w, hw, checked, rfl⟩
      next => cases h
    · rintro ⟨single, w, hw, checked, rfl⟩
      simp only [operand_string.mpr ⟨single, w, hw, checked, rfl⟩]
      rfl
  · simp [accepted]

/-! ### Resolving -/

/-- The equalities with the members resolve just if the members have the type of the attribute. -/
theorem resolveAll_equalities
    (same : ∀ comparison operand source, scope.leaf ⟨path, comparison, operand, source⟩ =
      scope.compareLeaf ⟨path, comparison, operand, source⟩ via e a)
    {vs : List Json} {sources : Json → Json} {rs : List ResolvedFilter} :
    scope.resolveAll (vs.map fun v => .leaf ⟨path, .eq, v, sources v⟩) = .ok rs ↔
      ∃ ws, List.Forall₂ (fun v w => scope.value a.type v = .ok w) vs ws ∧
        rs = ws.map fun w => .leaf (scope.comparing via e a .eq (.single w)) := by
  have each : ∀ v r, scope.resolve (.leaf ⟨path, .eq, v, sources v⟩) = .ok r ↔
      ∃ w, scope.value a.type v = .ok w ∧
        r = .leaf (scope.comparing via e a .eq (.single w)) := by
    intro v r
    simp only [resolve, map_eq_ok, same, compareLeaf_equality]
    constructor
    · rintro ⟨_, ⟨w, hw, rfl⟩, rfl⟩
      exact ⟨w, hw, rfl⟩
    · rintro ⟨w, hw, rfl⟩
      exact ⟨_, ⟨w, hw, rfl⟩, rfl⟩
  rw [resolveAll_eq_ok, List.forall₂_map_left_iff]
  simp only [each]
  induction vs generalizing rs with
  | nil => simp
  | cons v rest ih =>
    simp only [List.forall₂_cons_left_iff, ih]
    constructor
    · rintro ⟨_, _, ⟨w, hw, rfl⟩, ⟨ws, hws, rfl⟩, rfl⟩
      exact ⟨w :: ws, ⟨w, ws, hw, hws, rfl⟩, rfl⟩
    · rintro ⟨_, ⟨w, ws, hw, hws, rfl⟩, rfl⟩
      exact ⟨_, _, ⟨w, hw, rfl⟩, ⟨ws, hws, rfl⟩, rfl⟩

theorem resolveAll_group {before after : List Filter} {child : Filter}
    {rs : List ResolvedFilter} :
    scope.resolveAll (before ++ child :: after) = .ok rs ↔
      ∃ bs r as, scope.resolveAll before = .ok bs ∧ scope.resolve child = .ok r ∧
        scope.resolveAll after = .ok as ∧ rs = bs ++ r :: as := by
  simp only [resolveAll_eq_ok, forall₂_append_cons]

/-- With another filter in the place of one, the others resolve to what they resolved to. -/
theorem resolveAll_replace (related : ResolvedFilter → ResolvedFilter → Prop)
    {child child' : Filter} (replace : ∀ r, scope.resolve child = .ok r →
      ∃ r', scope.resolve child' = .ok r' ∧ related r r')
    {before after : List Filter} {rs : List ResolvedFilter}
    (h : scope.resolveAll (before ++ child :: after) = .ok rs) :
    ∃ bs r r' as, rs = bs ++ r :: as ∧ related r r' ∧
      scope.resolveAll (before ++ child' :: after) = .ok (bs ++ r' :: as) := by
  obtain ⟨bs, r, as, hbs, hr, has, rfl⟩ := resolveAll_group.mp h
  obtain ⟨r', hr', both⟩ := replace r hr
  exact ⟨bs, r, r', as, rfl, both, resolveAll_group.mpr ⟨bs, r', as, hbs, hr', has, rfl⟩⟩

/-- Either filter resolves if the other does, and they resolve to equivalent filters. -/
theorem resolve_enumerated (start : scope.registry.searchable? scope.root.name = some scope.root)
    {f f' : Filter} (h : Filter.Enumerated scope.root f f') :
    (∀ r, scope.resolve f = .ok r → ∃ r', scope.resolve f' = .ok r' ∧ r.Equivalent r') ∧
      ∀ r', scope.resolve f' = .ok r' → ∃ r, scope.resolve f = .ok r ∧ r.Equivalent r' := by
  induction h with
  | @leaf path vs source sources scalar full =>
    simp only [resolve, map_eq_ok]
    rcases leaf_settles start scalar with ⟨via, e, a, same⟩ | never
    · have equivalent : ∀ ws, List.Forall₂ (fun v w => scope.value a.type v = .ok w) vs ws →
          (ResolvedFilter.leaf (scope.comparing via e a .isIn (.list ws))).Equivalent
            (.or (ws.map fun w => .leaf (scope.comparing via e a .eq (.single w)))) := by
        intro ws hws
        refine ResolvedFilter.equivalent_membership _ _ _ ?_
        rwa [← List.length_pos_iff, ← hws.length_eq, List.length_pos_iff]
      simp only [same, compareLeaf_membership, resolveAll_equalities same]
      constructor
      · rintro _ ⟨_, ⟨ws, hws, rfl⟩, rfl⟩
        exact ⟨_, ⟨_, ⟨ws, hws, rfl⟩, rfl⟩, equivalent ws hws⟩
      · rintro _ ⟨_, ⟨ws, hws, rfl⟩, rfl⟩
        exact ⟨_, ⟨_, ⟨ws, hws, rfl⟩, rfl⟩, equivalent ws hws⟩
    · constructor
      · rintro _ ⟨resolved, h, -⟩
        exact absurd h (never _ _ _ _)
      · rintro _ ⟨rs, h, -⟩
        obtain ⟨v, rest, rfl⟩ := List.exists_cons_of_ne_nil full
        obtain ⟨r, hr, -⟩ := bind_eq_ok.mp h
        obtain ⟨resolved, hresolved, -⟩ := map_eq_ok.mp hr
        exact absurd hresolved (never _ _ _ _)
  | not _ ih =>
    simp only [resolve, map_eq_ok]
    constructor
    · rintro _ ⟨r, hr, rfl⟩
      obtain ⟨r', hr', equivalent⟩ := ih.1 r hr
      exact ⟨_, ⟨r', hr', rfl⟩, equivalent.not⟩
    · rintro _ ⟨r', hr', rfl⟩
      obtain ⟨r, hr, equivalent⟩ := ih.2 r' hr'
      exact ⟨_, ⟨r, hr, rfl⟩, equivalent.not⟩
  | and _ ih =>
    simp only [resolve, map_eq_ok]
    constructor
    · rintro _ ⟨_, h, rfl⟩
      obtain ⟨bs, r, r', as, rfl, equivalent, h'⟩ :=
        resolveAll_replace ResolvedFilter.Equivalent ih.1 h
      exact ⟨_, ⟨_, h', rfl⟩, equivalent.and bs as⟩
    · rintro _ ⟨_, h, rfl⟩
      obtain ⟨bs, r', r, as, rfl, equivalent, h'⟩ :=
        resolveAll_replace (fun r' r => r.Equivalent r') ih.2 h
      exact ⟨_, ⟨_, h', rfl⟩, equivalent.and bs as⟩
  | or _ ih =>
    simp only [resolve, map_eq_ok]
    constructor
    · rintro _ ⟨_, h, rfl⟩
      obtain ⟨bs, r, r', as, rfl, equivalent, h'⟩ :=
        resolveAll_replace ResolvedFilter.Equivalent ih.1 h
      exact ⟨_, ⟨_, h', rfl⟩, equivalent.or bs as⟩
    · rintro _ ⟨_, h, rfl⟩
      obtain ⟨bs, r', r, as, rfl, equivalent, h'⟩ :=
        resolveAll_replace (fun r' r => r.Equivalent r') ih.2 h
      exact ⟨_, ⟨_, h', rfl⟩, equivalent.or bs as⟩

/-- The membership leaf resolves just if the equality with each member does. -/
theorem leaf_members (start : scope.registry.searchable? scope.root.name = some scope.root)
    (scalar : ¬ scope.root.PathOfRelation path) {vs : List Json} (full : vs ≠ []) (source : Json)
    (sources : Json → Json) :
    (∃ resolved, scope.leaf ⟨path, .isIn, .array vs, source⟩ = .ok resolved) ↔
      ∀ v ∈ vs, ∃ resolved, scope.leaf ⟨path, .eq, v, sources v⟩ = .ok resolved := by
  rcases leaf_settles start scalar with ⟨via, e, a, same⟩ | never
  · simp only [same, compareLeaf_membership, compareLeaf_equality]
    constructor
    · rintro ⟨_, ws, hws, -⟩ v hv
      obtain ⟨w, -, hw⟩ := forall₂_mem_left hws hv
      exact ⟨_, w, hw, rfl⟩
    · intro each
      obtain ⟨ws, hws⟩ := exists_forall₂ fun v hv => (each v hv).elim fun _ ⟨w, hw, _⟩ => ⟨w, hw⟩
      exact ⟨_, ws, hws, rfl⟩
  · obtain ⟨v, rest, rfl⟩ := List.exists_cons_of_ne_nil full
    constructor
    · rintro ⟨resolved, h⟩
      exact absurd h (never _ _ _ _)
    · intro each
      obtain ⟨resolved, h⟩ := each v List.mem_cons_self
      exact absurd h (never _ _ _ _)

end Scope

/-! ### Compiling -/

namespace Compiler

open FieldSearch.Filter

variable {c : Compiler} {name : String} {root : Entity}

/-- A leaf is resolved unless no leaf is allowed. -/
theorem resolve_leafNode {path : List String} {token : String} {comparison : Comparison}
    (hlength : 2 ≤ path.length) (known : (token, comparison) ∈ Comparison.tokenTable)
    {operand : Json} {r : ResolvedFilter} :
    c.resolve root (leafNode path token operand) = .ok r ↔
      (1 ≤ c.config.maxDepth ∧ 1 ≤ c.config.maxLeaves) ∧
        ∃ resolved, (c.scope root).leaf
          ⟨path, comparison, operand, leafNode path token operand⟩ = .ok resolved ∧
            r = .leaf resolved := by
  have mirrors := Mirrors.leaf operand hlength known
  constructor
  · intro h
    obtain ⟨f, hf, h⟩ := bind_eq_ok.mp h
    obtain ⟨hmirrors, depth, leaves⟩ := parse_eq_ok.mp hf
    cases hmirrors.unique mirrors
    obtain ⟨resolved, hresolved, rfl⟩ := map_eq_ok.mp h
    exact ⟨⟨depth, leaves⟩, resolved, hresolved, rfl⟩
  · rintro ⟨⟨depth, leaves⟩, resolved, hresolved, rfl⟩
    refine bind_eq_ok.mpr ⟨_, parse_eq_ok.mpr ⟨mirrors, depth, leaves⟩, ?_⟩
    exact map_eq_ok.mpr ⟨resolved, hresolved, rfl⟩

variable (start : c.root name = .ok root) {orderBy : Json} {page : Option Page}

include start

theorem exists_compile_leaf {path : List String} {token : String} {comparison : Comparison}
    (hlength : 2 ≤ path.length) (known : (token, comparison) ∈ Comparison.tokenTable)
    (operand : Json) :
    (∃ plan, c.compile name (leafNode path token operand) orderBy page = .ok plan) ↔
      (1 ≤ c.config.maxDepth ∧ 1 ≤ c.config.maxLeaves) ∧
        (∃ terms, c.ordering root orderBy = .ok terms) ∧
        ∃ resolved, (c.scope root).leaf
          ⟨path, comparison, operand, leafNode path token operand⟩ = .ok resolved := by
  rw [exists_compile]
  simp only [resolve_leafNode hlength known]
  constructor
  · rintro ⟨root', start', ⟨_, room, resolved, h, rfl⟩, ordering⟩
    cases start.symm.trans start'
    exact ⟨room, ordering, resolved, h⟩
  · rintro ⟨room, ordering, resolved, h⟩
    exact ⟨root, start, ⟨_, room, resolved, h, rfl⟩, ordering⟩

/-- A membership leaf is accepted just if the equality with each member is. -/
theorem exists_compile_members {path : List String} {inToken eqToken : String} {vs : List Json}
    (h : Enumerates root path inToken eqToken vs) :
    (∃ plan, c.compile name (leafNode path inToken (.array vs)) orderBy page = .ok plan) ↔
      ∀ v ∈ vs, ∃ plan, c.compile name (leafNode path eqToken v) orderBy page = .ok plan := by
  have members := Scope.leaf_members (scope_searchable start) h.scalar h.full
    (leafNode path inToken (.array vs)) (leafNode path eqToken)
  simp only [exists_compile_leaf start h.length h.membership, members,
    exists_compile_leaf start h.length h.equality]
  constructor
  · rintro ⟨room, ordering, each⟩ v hv
    exact ⟨room, ordering, each v hv⟩
  · intro each
    obtain ⟨v, rest, rfl⟩ := List.exists_cons_of_ne_nil h.full
    obtain ⟨room, ordering, -⟩ := each v List.mem_cons_self
    exact ⟨room, ordering, fun v hv => (each v hv).2.2⟩

variable {node node' : Json} (h : NodeEnumerated root node node')

include h

theorem exists_resolve_enumerated :
    (∃ r', c.resolve root node' = .ok r') ↔
      (∃ r, c.resolve root node = .ok r) ∧ ¬ Over c.config.bounds (measure node') := by
  constructor
  · rintro ⟨r', hr'⟩
    obtain ⟨f', hf', hr'⟩ := bind_eq_ok.mp hr'
    obtain ⟨⟨f, hf⟩, within⟩ := h.exists_parse.mp ⟨f', hf'⟩
    obtain ⟨r, hr, -⟩ :=
      (Scope.resolve_enumerated (scope_searchable start) (h.parse hf hf')).2 r' hr'
    exact ⟨⟨r, bind_eq_ok.mpr ⟨f, hf, hr⟩⟩, within⟩
  · rintro ⟨⟨r, hr⟩, within⟩
    obtain ⟨f, hf, hr⟩ := bind_eq_ok.mp hr
    obtain ⟨f', hf'⟩ := h.exists_parse.mpr ⟨⟨f, hf⟩, within⟩
    obtain ⟨r', hr', -⟩ :=
      (Scope.resolve_enumerated (scope_searchable start) (h.parse hf hf')).1 r hr
    exact ⟨r', bind_eq_ok.mpr ⟨f', hf', hr'⟩⟩

/-- The filter with the disjunction is accepted just if the one with the membership leaf is, and
unless it is too complex. -/
theorem exists_compile_enumerated :
    (∃ plan', c.compile name node' orderBy page = .ok plan') ↔
      (∃ plan, c.compile name node orderBy page = .ok plan) ∧
        ¬ Over c.config.bounds (measure node') := by
  have resolves := exists_resolve_enumerated start h
  simp only [exists_compile]
  constructor
  · rintro ⟨root', start', resolved, ordering⟩
    cases start.symm.trans start'
    obtain ⟨resolved, within⟩ := resolves.mp resolved
    exact ⟨⟨root, start, resolved, ordering⟩, within⟩
  · rintro ⟨⟨root', start', resolved, ordering⟩, within⟩
    cases start.symm.trans start'
    exact ⟨root, start, resolves.mpr ⟨resolved, within⟩, ordering⟩

/-- The plans have the same joins, terms and page, and come from equivalent filters. -/
theorem compile_enumerated {plan plan' : Plan} (hp : c.compile name node orderBy page = .ok plan)
    (hp' : c.compile name node' orderBy page = .ok plan') :
    (plan'.joins = plan.joins ∧ plan'.orderBy = plan.orderBy ∧ plan'.page = plan.page) ∧
      ∀ r r', c.resolve root node = .ok r → c.resolve root node' = .ok r' → r.Equivalent r' := by
  have equivalent : ∀ r r', c.resolve root node = .ok r → c.resolve root node' = .ok r' →
      r.Equivalent r' := by
    intro r r' hr hr'
    obtain ⟨f, hf, hr⟩ := bind_eq_ok.mp hr
    obtain ⟨f', hf', hr'⟩ := bind_eq_ok.mp hr'
    obtain ⟨r'', hr'', equivalent⟩ :=
      (Scope.resolve_enumerated (scope_searchable start) (h.parse hf hf')).1 r hr
    cases hr'.symm.trans hr''
    exact equivalent
  refine ⟨?_, equivalent⟩
  obtain ⟨root', resolved, terms, start', hresolved, hterms, rfl⟩ := compile_eq_ok hp
  cases start.symm.trans start'
  obtain ⟨root', resolved', terms', start', hresolved', hterms', rfl⟩ := compile_eq_ok hp'
  cases start.symm.trans start'
  cases hterms.symm.trans hterms'
  have joins := (equivalent resolved resolved' hresolved hresolved').joins .empty
  exact ⟨congrArg JoinPlan.entries joins, rfl, rfl⟩

end Compiler

end FieldSearch
