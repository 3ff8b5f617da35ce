import FieldSearch.Proofs.Schema.Acceptance
import FieldSearch.Proofs.Search.WellFormed
import Mathlib.Data.List.Induction

/-!
# Join plans are canonical

The joins of a plan are the relations that the leaves of its filter take, each once, numbered in the
order of first use. How a path spells its relation makes no difference. Lowering the filter and
walking the predicate meet the joins in the same order.
-/

namespace FieldSearch

/-! ### First uses in a list -/

section FirstUses

variable {α β : Type} [BEq α] [LawfulBEq α] [BEq β] [LawfulBEq β]

/-- One more element is new, or the first uses stay as they are. -/
theorem eraseDups_concat (as : List α) (a : α) :
    (as ++ [a]).eraseDups = if as.contains a then as.eraseDups else as.eraseDups ++ [a] := by
  rw [List.eraseDups_append]
  by_cases h : a ∈ as <;> simp [List.removeAll, List.eraseDups_cons, h]

theorem nodup_eraseDups (as : List α) : as.eraseDups.Nodup := by
  induction as using List.reverseRecOn with
  | nil => exact .nil
  | append_singleton as a ih =>
    rw [eraseDups_concat]
    split
    · exact ih
    next fresh =>
      rw [List.nodup_append]
      refine ⟨ih, by simp, ?_⟩
      rintro b hb c hc rfl
      exact fresh (by simpa [List.mem_singleton.mp hc] using hb)

theorem eraseDups_filter (keep : α → Bool) (as : List α) :
    (as.filter keep).eraseDups = as.eraseDups.filter keep := by
  induction as using List.reverseRecOn with
  | nil => rfl
  | append_singleton as a ih =>
    rw [List.filter_append, eraseDups_concat]
    cases hk : keep a <;> by_cases ha : a ∈ as <;> simp [eraseDups_concat, hk, ha, ih]

theorem eraseDups_map {f : α → β} {as : List α}
    (injective : ∀ a ∈ as, ∀ b ∈ as, f a = f b → a = b) :
    (as.map f).eraseDups = as.eraseDups.map f := by
  induction as using List.reverseRecOn with
  | nil => rfl
  | append_singleton as a ih =>
    have known : f a ∈ as.map f ↔ a ∈ as := by
      refine ⟨fun h => ?_, List.mem_map_of_mem⟩
      obtain ⟨b, hb, hf⟩ := List.mem_map.mp h
      exact injective b (by simp [hb]) a (by simp) hf ▸ hb
    have ih := ih fun b hb c hc => injective b (by simp [hb]) c (by simp [hc])
    rw [List.map_append, List.map_singleton, eraseDups_concat, eraseDups_concat]
    by_cases ha : a ∈ as <;> simp [known, ha, ih]

end FirstUses

theorem Predicate.foldl_addOccurrence (os : List Occurrence) :
    os.foldl addOccurrence [] = os.eraseDups := by
  induction os using List.reverseRecOn with
  | nil => rfl
  | append_singleton os o ih =>
    rw [List.foldl_append, ih, eraseDups_concat]
    simp [addOccurrence]

/-! ### The joins of a filter -/

namespace JoinPlan

theorem allocate_keys (p : JoinPlan) (t : Traversal) :
    (p.allocate t).2.entries.map (·.key) =
      if (p.entries.map (·.key)).contains t.key then p.entries.map (·.key)
      else p.entries.map (·.key) ++ [t.key] := by
  rcases p.allocate_cases t with ⟨o, known, h⟩ | ⟨fresh, e, records, -, h⟩
  · obtain ⟨e, he, -, hsource, hrelation⟩ := lookup?_eq_some known
    have : t.key ∈ p.entries.map (·.key) :=
      List.mem_map.mpr ⟨e, he, Prod.ext hsource hrelation⟩
    simp [h, this]
  · have hnew : t.key ∉ p.entries.map (·.key) := lookup?_eq_none.mp fresh
    have hkey : e.key = t.key := Prod.ext records.source records.relation
    simp [h, hnew, hkey]

/-- The joins are the traversals in the order of first use. -/
theorem allocateAll_keys (ts : List Traversal) :
    (empty.allocateAll ts).entries.map (·.key) = (ts.map (·.key)).eraseDups := by
  induction ts using List.reverseRecOn with
  | nil => rfl
  | append_singleton ts t ih =>
    have hlast : empty.allocateAll (ts ++ [t]) = ((empty.allocateAll ts).allocate t).2 := by
      simp [allocateAll]
    rw [hlast, allocate_keys, ih, List.map_append, List.map_singleton, eraseDups_concat]
    simp

/-- The occurrence on which a leaf is tested. -/
def occurrenceOf (p : JoinPlan) (l : ResolvedLeaf) : Occurrence :=
  match l.traversal? with
  | none => .root
  | some t => (p.allocate t).1

/-- The occurrence of the join with this key; the root if there is none. -/
def occurrenceAt (p : JoinPlan) (key : String × String) : Occurrence :=
  (p.lookup? key.1 key.2).getD .root

variable {p : JoinPlan}

theorem Valid.lookup?_key (valid : p.Valid) {e : JoinEntry} (he : e ∈ p.entries) :
    p.lookup? e.source e.relation = some e.occurrence := by
  have found : p.entries.find? (·.key == e.key) = some e :=
    find?_name_of_mem JoinEntry.key valid.distinct he
  rw [lookup?]
  exact congrArg (Option.map _) found

theorem Valid.occurrenceAt_key (valid : p.Valid) {e : JoinEntry} (he : e ∈ p.entries) :
    p.occurrenceAt e.key = e.occurrence := by
  simp [occurrenceAt, JoinEntry.key, valid.lookup?_key he]

theorem Has.occurrenceOf {l : ResolvedLeaf} {t : Traversal} (h : p.Has t)
    (ht : l.traversal? = some t) : p.occurrenceOf l = p.occurrenceAt t.key := by
  obtain ⟨o, hlookup, ho⟩ := h.allocate
  simp [JoinPlan.occurrenceOf, ht, occurrenceAt, Traversal.key, hlookup, ho]

theorem Has.exists_entry {t : Traversal} (h : p.Has t) : ∃ e ∈ p.entries, e.key = t.key := by
  obtain ⟨o, hlookup, -⟩ := h.allocate
  obtain ⟨e, he, -, hsource, hrelation⟩ := lookup?_eq_some hlookup
  exact ⟨e, he, Prod.ext hsource hrelation⟩

theorem Valid.numbers (valid : p.Valid) (size : p.entries.length < UInt32.size) :
    p.entries.map (·.occurrence.id.toNat) = List.range' 1 p.entries.length := by
  have h : p.entries.map (·.occurrence.id.toNat) =
      (p.entries.map (·.occurrence)).map (·.id.toNat) := by simp
  rw [h, valid.occurrences, List.map_map, List.range'_eq_map_range]
  refine List.map_congr_left fun i hi => ?_
  rw [List.mem_range] at hi
  simp only [Function.comp_apply, numbered]
  rw [UInt32.toNat_ofNat_of_lt' (by omega), Nat.add_comm]

end JoinPlan

/-! ### Walking the predicate -/

namespace Predicate

variable {p : JoinPlan}

@[simp]
theorem addOccurrence_twice (seen : List Occurrence) (o : Occurrence) :
    addOccurrence (addOccurrence seen o) o = addOccurrence seen o := by
  by_cases h : o ∈ seen <;> simp [addOccurrence, h]

theorem occurrencesFrom_ofOperand (seen : List Occurrence) (c : Column) (comparison : Comparison)
    (operand : Operand) :
    occurrencesFrom seen (ofOperand c comparison operand) = addOccurrence seen c.occurrence := by
  unfold ofOperand
  split
  · split <;> rfl
  · rfl
  · -- A list with a null in it makes two conditions, both on the one column.
    simp only [ofList]
    split
    · rfl
    · split
      · rfl
      · simp [occurrencesFrom, occurrencesOf]

theorem occurrencesFrom_leaf (seen : List Occurrence) {l : ResolvedLeaf}
    (has : ∀ t, l.traversal? = some t → p.Has t) :
    occurrencesFrom seen (lowered p (.leaf l)) = addOccurrence seen (p.occurrenceOf l) := by
  cases l with
  | compare via entity name comparison operand =>
    cases via with
    | none => exact occurrencesFrom_ofOperand seen _ comparison operand
    | some t =>
      obtain ⟨o, -, ho⟩ := (has t rfl).allocate
      rw [lowered_via _ _ _ _ ho, occurrencesFrom, occurrencesFrom_ofOperand, addOccurrence_twice]
      simp [JoinPlan.occurrenceOf, ResolvedLeaf.traversal?, ho]
  | presence t present =>
    obtain ⟨o, -, ho⟩ := (has t rfl).allocate
    rw [lowered_presence _ ho, occurrencesFrom]
    simp [JoinPlan.occurrenceOf, ResolvedLeaf.traversal?, ho]

theorem occurrencesOf_lowered {fs : List ResolvedFilter}
    (each : ∀ f ∈ fs, ∀ seen, occurrencesFrom seen (lowered p f) =
      (f.leaves.map p.occurrenceOf).foldl addOccurrence seen) (seen : List Occurrence) :
    occurrencesOf seen (fs.map (lowered p)) =
      ((ResolvedFilter.leavesOf fs).map p.occurrenceOf).foldl addOccurrence seen := by
  induction fs generalizing seen with
  | nil => rfl
  | cons f rest ih =>
    rw [List.forall_mem_cons] at each
    rw [List.map_cons, occurrencesOf, each.1, ih each.2, ResolvedFilter.leavesOf, List.map_append,
      List.foldl_append]

/-- A walk over the predicate meets what the leaves are tested on, from left to right. -/
theorem occurrencesFrom_lowered {f : ResolvedFilter} (serves : p.Serves f)
    (seen : List Occurrence) :
    occurrencesFrom seen (lowered p f) =
      (f.leaves.map p.occurrenceOf).foldl addOccurrence seen := by
  induction f using ResolvedFilter.induct generalizing seen with
  | leaf l => exact occurrencesFrom_leaf seen (serves l List.mem_cons_self)
  | not child ih =>
    rw [lowered_not, occurrencesFrom]
    exact ih serves.child seen
  | and children ih =>
    rw [lowered_and serves, occurrencesFrom]
    exact occurrencesOf_lowered (fun f hf => ih f hf (serves.and f hf)) seen
  | or children ih =>
    rw [lowered_or serves, occurrencesFrom]
    exact occurrencesOf_lowered (fun f hf => ih f hf (serves.or f hf)) seen

theorem occurrences_lowered {f : ResolvedFilter} (serves : p.Serves f) :
    (lowered p f).occurrences = (f.leaves.map p.occurrenceOf).eraseDups := by
  rw [occurrences, occurrencesFrom_lowered serves, foldl_addOccurrence]

end Predicate

namespace JoinPlan

/-- The occurrences of the leaves that take a relation, in the order of the leaves. -/
theorem map_occurrenceOf_filter {p : JoinPlan} {ls : List ResolvedLeaf}
    (has : ∀ l ∈ ls, ∀ t, l.traversal? = some t → p.Has t)
    (apart : ∀ l ∈ ls, ∀ t, l.traversal? = some t → p.occurrenceAt t.key ≠ .root) :
    (ls.map p.occurrenceOf).filter (!·.isRoot) =
      (ls.filterMap (·.traversal?)).map fun t => p.occurrenceAt t.key := by
  induction ls with
  | nil => rfl
  | cons l rest ih =>
    rw [List.forall_mem_cons] at has apart
    have ih := ih has.2 apart.2
    cases ht : l.traversal? with
    | none => simpa [occurrenceOf, ht, Occurrence.isRoot] using ih
    | some t =>
      have ho := (has.1 t ht).occurrenceOf ht
      have hne := apart.1 t ht
      simpa [ht, ho, hne, Occurrence.isRoot] using ih

/-- The occurrences of the joins are those that the leaves are tested on, in the order of first
use. -/
theorem ofFilter_occurrences (f : ResolvedFilter)
    (size : (ofFilter f).entries.length < UInt32.size) :
    (f.leaves.map (ofFilter f).occurrenceOf).eraseDups.filter (!·.isRoot) =
      (ofFilter f).entries.map (·.occurrence) := by
  have valid := ofFilter_valid f
  obtain ⟨distinct, apart⟩ := valid.occurrences_distinct size
  have serves := ofFilter_serves f
  have entry : ∀ t ∈ f.traversals, ∃ e ∈ (ofFilter f).entries, e.key = t.key ∧
      (ofFilter f).occurrenceAt t.key = e.occurrence := by
    intro t ht
    obtain ⟨l, hl, hlt⟩ := ResolvedFilter.mem_traversals.mp ht
    obtain ⟨e, he, hkey⟩ := (serves l hl t hlt).exists_entry
    exact ⟨e, he, hkey, hkey ▸ valid.occurrenceAt_key he⟩
  have injective : ∀ k ∈ f.traversals.map (·.key), ∀ k' ∈ f.traversals.map (·.key),
      (ofFilter f).occurrenceAt k = (ofFilter f).occurrenceAt k' → k = k' := by
    simp only [List.forall_mem_map]
    intro t ht t' ht' same
    obtain ⟨e, he, hkey, ho⟩ := entry t ht
    obtain ⟨e', he', hkey', ho'⟩ := entry t' ht'
    have : e = e' := List.inj_on_of_nodup_map distinct he he' (ho ▸ ho' ▸ same)
    rw [← hkey, ← hkey', this]
  have away : ∀ l ∈ f.leaves, ∀ t, l.traversal? = some t →
      (ofFilter f).occurrenceAt t.key ≠ .root := by
    intro l hl t ht
    obtain ⟨e, he, -, ho⟩ := entry t (ResolvedFilter.mem_traversals.mpr ⟨l, hl, ht⟩)
    exact ho ▸ apart e he
  calc (f.leaves.map (ofFilter f).occurrenceOf).eraseDups.filter (!·.isRoot)
    _ = (f.traversals.map fun t => (ofFilter f).occurrenceAt t.key).eraseDups := by
        rw [← eraseDups_filter, map_occurrenceOf_filter serves away, ResolvedFilter.traversals]
    _ = (f.traversals.map (·.key)).eraseDups.map (ofFilter f).occurrenceAt := by
        rw [← eraseDups_map injective, List.map_map]
        rfl
    _ = ((ofFilter f).entries.map (·.key)).map (ofFilter f).occurrenceAt := by
        rw [ofFilter, allocateAll_keys]
    _ = (ofFilter f).entries.map (·.occurrence) := by
        rw [List.map_map]
        exact List.map_congr_left fun e he => valid.occurrenceAt_key he

end JoinPlan

/-! ### The leaves of the filter -/

namespace Filter

mutual

/-- The predicate that has a condition in the place of each leaf. -/
def assemble (condition : Leaf → Predicate) : Filter → Predicate
  | leaf l => condition l
  | not child => .not (assemble condition child)
  | and children => .and (assembleAll condition children)
  | or children => .or (assembleAll condition children)

def assembleAll (condition : Leaf → Predicate) : List Filter → List Predicate
  | [] => []
  | child :: rest => assemble condition child :: assembleAll condition rest

end

end Filter

namespace Scope

variable {scope : Scope}

/-- The relation of the root that the path of a leaf takes: the one that it names, or the default
way to the entity or the alias that it names in place of one. -/
def relation? (scope : Scope) (l : Leaf) : Option Relation :=
  match l.path with
  | [first, name] =>
    if first = scope.root.name then
      if (scope.root.attribute? name).isSome then none
      else (scope.root.relation? name).or (scope.root.defaultTraversal? name)
    else scope.root.defaultTraversal? first
  | [_, relation, _] => scope.root.relation? relation
  | _ => none

/-- What the root leads to over a relation of a leaf. -/
def traversal? (scope : Scope) (l : Leaf) : Option Traversal :=
  (scope.relation? l).map fun r => ⟨scope.root.name, r⟩

/-- The condition of a leaf in a plan with these joins. -/
def condition (scope : Scope) (p : JoinPlan) (l : Leaf) : Predicate :=
  match scope.leaf l with
  | .ok resolved => Predicate.lowered p (.leaf resolved)
  | .error _ => .or []

theorem compareLeaf_traversal {l : Leaf} {via : Option Relation} {entity : Entity} {a : Attribute}
    {resolved : ResolvedLeaf} (h : scope.compareLeaf l via entity a = .ok resolved) :
    resolved.traversal? = via.map fun r => ⟨scope.root.name, r⟩ := by
  obtain ⟨-, operand, -, rfl⟩ := compareLeaf_eq_ok h
  rfl

theorem presenceLeaf_traversal {l : Leaf} {r : Relation} {resolved : ResolvedLeaf}
    (h : presenceLeaf l scope.root r = .ok resolved) :
    resolved.traversal? = some ⟨scope.root.name, r⟩ := by
  unfold presenceLeaf at h
  split at h
  · cases h
  · cases h
    rfl

theorem rootName_traversal {l : Leaf} {name : String} {resolved : ResolvedLeaf}
    (h : scope.rootName l name = .ok resolved) :
    resolved.traversal? =
      (if (scope.root.attribute? name).isSome then none
        else (scope.root.relation? name).or (scope.root.defaultTraversal? name)).map
          fun r => ⟨scope.root.name, r⟩ := by
  unfold rootName at h
  split at h
  next a ha => simpa [ha] using compareLeaf_traversal h
  next ha =>
    split at h
    next r hr => simpa [ha, hr] using presenceLeaf_traversal h
    next hr =>
      split at h
      next => cases h
      next =>
        obtain ⟨r, found, h⟩ := bind_eq_ok.mp h
        split at h
        next => simpa [ha, hr, defaultTraversal_eq_ok found] using compareLeaf_traversal h
        next => cases h

theorem viaDefault_traversal {l : Leaf} {entity : Entity} {other : Option EntityAlias}
    {name : String} {resolved : ResolvedLeaf}
    (h : scope.viaDefault l entity other name = .ok resolved) :
    resolved.traversal? =
      (scope.root.defaultTraversal? l.entity).map fun r => ⟨scope.root.name, r⟩ := by
  unfold viaDefault at h
  obtain ⟨r, found, h⟩ := bind_eq_ok.mp h
  by_cases allowed : other.all (·.allows name) = true
  · simp only [allowed, Bool.not_true, Bool.false_eq_true, if_false] at h
    split at h
    next => simpa [defaultTraversal_eq_ok found] using compareLeaf_traversal h
    next => split at h <;> cases h
  · simp only [allowed, Bool.not_false, if_true] at h
    cases h

theorem viaRelation_traversal {l : Leaf} {relation name : String} {resolved : ResolvedLeaf}
    (h : scope.viaRelation l relation name = .ok resolved) :
    resolved.traversal? =
      (scope.root.relation? relation).map fun r => ⟨scope.root.name, r⟩ := by
  unfold viaRelation at h
  split at h
  next => cases h
  next r hr =>
    split at h
    next => cases h
    next =>
      split at h
      next => simpa [hr] using compareLeaf_traversal h
      next => split at h <;> cases h

/-- A leaf that resolves takes the relation that its path spells, whichever way. -/
theorem leaf_traversal {l : Leaf} {resolved : ResolvedLeaf} (h : scope.leaf l = .ok resolved) :
    resolved.traversal? = scope.traversal? l := by
  unfold Scope.leaf at h
  split at h
  next => cases h
  next =>
    split at h
    next => cases h
    next =>
      split at h
      next first name hpath =>
        split at h
        next hfirst => simpa [traversal?, relation?, hpath, hfirst] using rootName_traversal h
        next hfirst =>
          simpa [traversal?, relation?, hpath, hfirst, Leaf.entity] using viaDefault_traversal h
      next hpath =>
        split at h
        next => simpa [traversal?, relation?, hpath] using viaRelation_traversal h
        next => cases h
      next => cases h

theorem condition_eq {l : Leaf} {resolved : ResolvedLeaf} (p : JoinPlan)
    (h : scope.leaf l = .ok resolved) :
    scope.condition p l = Predicate.lowered p (.leaf resolved) := by
  simp only [condition, h]

theorem assembleAll_eq {p : JoinPlan} {fs : List Filter} {resolved : List ResolvedFilter}
    (each : ∀ f ∈ fs, ∀ r, scope.resolve f = .ok r → p.Serves r →
      Predicate.lowered p r = f.assemble (scope.condition p))
    (h : scope.resolveAll fs = .ok resolved) (serves : ∀ r ∈ resolved, p.Serves r) :
    resolved.map (Predicate.lowered p) = Filter.assembleAll (scope.condition p) fs := by
  induction resolveAll_eq_ok.mp h with
  | nil => rfl
  | cons hr hrest ih =>
    rw [List.forall_mem_cons] at each serves
    rw [List.map_cons, Filter.assembleAll, each.1 _ hr serves.1,
      ih each.2 (resolveAll_eq_ok.mpr hrest) serves.2]

/-- The predicate of a resolved filter has the shape of the filter. -/
theorem lowered_eq {p : JoinPlan} {f : Filter} {resolved : ResolvedFilter}
    (h : scope.resolve f = .ok resolved) (serves : p.Serves resolved) :
    Predicate.lowered p resolved = f.assemble (scope.condition p) := by
  induction f using Filter.induct generalizing resolved with
  | leaf l =>
    obtain ⟨r, hr, rfl⟩ := map_eq_ok.mp (by simpa only [resolve] using h)
    exact (condition_eq p hr).symm
  | not child ih =>
    obtain ⟨r, hr, rfl⟩ := map_eq_ok.mp (by simpa only [resolve] using h)
    rw [Predicate.lowered_not, Filter.assemble, ih hr serves.child]
  | and children ih =>
    obtain ⟨rs, hrs, rfl⟩ := map_eq_ok.mp (by simpa only [resolve] using h)
    rw [Predicate.lowered_and serves, Filter.assemble,
      assembleAll_eq (fun f hf _ => ih f hf) hrs serves.and]
  | or children ih =>
    obtain ⟨rs, hrs, rfl⟩ := map_eq_ok.mp (by simpa only [resolve] using h)
    rw [Predicate.lowered_or serves, Filter.assemble,
      assembleAll_eq (fun f hf _ => ih f hf) hrs serves.or]

theorem resolve_traversals {f : Filter} {resolved : ResolvedFilter}
    (h : scope.resolve f = .ok resolved) :
    resolved.traversals = f.leaves.filterMap scope.traversal? := by
  rw [ResolvedFilter.traversals]
  have hleaves := resolve_leaf h
  generalize f.leaves = ls at hleaves ⊢
  generalize resolved.leaves = rs at hleaves ⊢
  induction hleaves with
  | nil => rfl
  | cons hl _ ih => simp only [List.filterMap_cons, leaf_traversal hl, ih]

end Scope

/-! ### The plan -/

/-- The joins are the relations that the leaves of the filter take, in the order of first use, and
both the numbers and the predicate follow them. -/
structure Plan.Canonical (scope : Scope) (f : Filter) (plan : Plan) : Prop where
  numbers : plan.joins.map (·.occurrence.id.toNat) = List.range' 1 plan.joins.length
  distinct : (plan.joins.map (·.key)).Nodup
  used : plan.joins.map (·.key) = ((f.leaves.filterMap scope.traversal?).map (·.key)).eraseDups
  few : plan.joins.length ≤ f.leafCount
  once : plan.predicate.occurrences.Nodup
  referred : plan.predicate.occurrences.filter (!·.isRoot) = plan.joins.map (·.occurrence)
  assembled : plan.predicate = f.assemble (scope.condition ⟨plan.joins⟩)
  /-- A leaf is tested on the root, or on the join of its relation. -/
  direct : ∀ l ∈ f.leaves, scope.relation? l = none →
    (scope.condition ⟨plan.joins⟩ l).occurrences = [.root]
  joined : ∀ l ∈ f.leaves, ∀ r, scope.relation? l = some r →
    ∃ e ∈ plan.joins, e.Records ⟨scope.root.name, r⟩ ∧
      (scope.condition ⟨plan.joins⟩ l).occurrences = [e.occurrence]
  /-- Two leaves are tested on the same occurrence just if they take the same relation. -/
  shared : ∀ l ∈ f.leaves, ∀ l' ∈ f.leaves,
    (scope.condition ⟨plan.joins⟩ l).occurrences = (scope.condition ⟨plan.joins⟩ l').occurrences ↔
      scope.relation? l = scope.relation? l'

/-- The relations of an entity are told apart by their names. -/
theorem Entity.Sound.relation_injective {e : Entity} (sound : e.Sound) {r r' : Relation}
    (hr : r ∈ e.relations) (hr' : r' ∈ e.relations) (h : r.name = r'.name) : r = r' :=
  List.inj_on_of_nodup_map (List.nodup_append.mp sound.members).2.1 hr hr' h

namespace Scope

variable {scope : Scope} {f : Filter} {resolved : ResolvedFilter}

theorem relation?_mem {l : Leaf} {r : Relation} (h : scope.relation? l = some r) :
    r ∈ scope.root.relations := by
  have default {name : String} (h : scope.root.defaultTraversal? name = some r) :=
    (Entity.defaultTraversal?_eq_some h).1
  have named {name : String} (h : scope.root.relation? name = some r) :=
    (Entity.relation?_eq_some h).1
  unfold relation? at h
  split at h
  · split at h
    · split at h
      · cases h
      · exact (Option.or_eq_some_iff.mp h).elim named fun h => default h.2
    · exact default h
  · exact named h
  · cases h

theorem condition_occurrences (h : scope.resolve f = .ok resolved) {l : Leaf} (hl : l ∈ f.leaves) :
    ∃ r ∈ resolved.leaves, r.traversal? = scope.traversal? l ∧
      (scope.condition (JoinPlan.ofFilter resolved) l).occurrences =
        [(JoinPlan.ofFilter resolved).occurrenceOf r] := by
  obtain ⟨r, hr, hres⟩ := forall₂_mem_left (resolve_leaf h) hl
  refine ⟨r, hr, leaf_traversal hres, ?_⟩
  rw [condition_eq _ hres, Predicate.occurrences,
    Predicate.occurrencesFrom_leaf _ (JoinPlan.ofFilter_serves resolved r hr)]
  rfl

theorem condition_direct (h : scope.resolve f = .ok resolved) {l : Leaf} (hl : l ∈ f.leaves)
    (direct : scope.relation? l = none) :
    (scope.condition (JoinPlan.ofFilter resolved) l).occurrences = [.root] := by
  obtain ⟨r, -, ht, ho⟩ := condition_occurrences h hl
  rw [ho, JoinPlan.occurrenceOf, ht, traversal?, direct, Option.map_none]

theorem condition_joined (sound : scope.root.Sound)
    (fits : (JoinPlan.ofFilter resolved).Fits scope.registry scope.root)
    (h : scope.resolve f = .ok resolved) {l : Leaf} (hl : l ∈ f.leaves) {r : Relation}
    (joined : scope.relation? l = some r) :
    ∃ e ∈ (JoinPlan.ofFilter resolved).entries, e.Records ⟨scope.root.name, r⟩ ∧
      (scope.condition (JoinPlan.ofFilter resolved) l).occurrences = [e.occurrence] := by
  obtain ⟨resolvedLeaf, hres, ht, ho⟩ := condition_occurrences h hl
  rw [traversal?, joined, Option.map_some] at ht
  have has := JoinPlan.ofFilter_serves resolved resolvedLeaf hres _ ht
  obtain ⟨e, he, hkey⟩ := has.exists_entry
  obtain ⟨r', hr', records, -⟩ := fits e he
  have hname : r'.name = r.name := records.relation.symm.trans (congrArg Prod.snd hkey)
  refine ⟨e, he, sound.relation_injective hr' (relation?_mem joined) hname ▸ records, ?_⟩
  rw [ho, has.occurrenceOf ht, ← hkey, (JoinPlan.ofFilter_valid resolved).occurrenceAt_key he]

/-- Two leaves are tested on the same occurrence just if they take the same relation. -/
theorem condition_shared (sound : scope.root.Sound)
    (fits : (JoinPlan.ofFilter resolved).Fits scope.registry scope.root)
    (size : (JoinPlan.ofFilter resolved).entries.length < UInt32.size)
    (h : scope.resolve f = .ok resolved) {l l' : Leaf} (hl : l ∈ f.leaves) (hl' : l' ∈ f.leaves) :
    (scope.condition (JoinPlan.ofFilter resolved) l).occurrences =
        (scope.condition (JoinPlan.ofFilter resolved) l').occurrences ↔
      scope.relation? l = scope.relation? l' := by
  have valid := JoinPlan.ofFilter_valid resolved
  obtain ⟨distinct, apart⟩ := valid.occurrences_distinct size
  cases hr : scope.relation? l with
  | none =>
    rw [condition_direct h hl hr]
    cases hr' : scope.relation? l' with
    | none => simp [condition_direct h hl' hr']
    | some r' =>
      obtain ⟨e, he, -, ho⟩ := condition_joined sound fits h hl' hr'
      simpa [ho] using (apart e he).symm
  | some r =>
    obtain ⟨e, he, records, ho⟩ := condition_joined sound fits h hl hr
    rw [ho]
    cases hr' : scope.relation? l' with
    | none => simpa [condition_direct h hl' hr'] using apart e he
    | some r' =>
      obtain ⟨e', he', records', ho'⟩ := condition_joined sound fits h hl' hr'
      rw [ho', List.singleton_inj, Option.some.injEq]
      constructor
      · intro same
        have hentry : e = e' := List.inj_on_of_nodup_map distinct he he' same
        subst hentry
        exact sound.relation_injective (relation?_mem hr) (relation?_mem hr')
          (records.relation.symm.trans records'.relation)
      · rintro rfl
        have hkey : e.key = e'.key :=
          Prod.ext (records.source.trans records'.source.symm)
            (records.relation.trans records'.relation.symm)
        rw [List.inj_on_of_nodup_map valid.distinct he he' hkey]

end Scope

/-- The joins and the predicate of a resolved filter are canonical. -/
theorem Plan.canonical_of_resolved {scope : Scope} {f : Filter} {resolved : ResolvedFilter}
    (consistent : scope.registry.Consistent) (hroot : scope.root ∈ scope.registry.entities)
    (full : f.Full) (h : scope.resolve f = .ok resolved) {plan : Plan}
    (predicate : plan.predicate = Predicate.lowered (JoinPlan.ofFilter resolved) resolved)
    (joins : plan.joins = (JoinPlan.ofFilter resolved).entries)
    (size : plan.joins.length < UInt32.size) : plan.Canonical scope f := by
  have valid := JoinPlan.ofFilter_valid resolved
  have serves := JoinPlan.ofFilter_serves resolved
  have sound := consistent.sound _ hroot
  have fits := JoinPlan.ofFilter_fits consistent hroot
    (Scope.resolve_sound consistent hroot full h).leaves
  rw [joins] at size
  constructor <;> simp only [predicate, joins]
  case numbers => exact valid.numbers size
  case distinct => exact valid.distinct
  case used =>
    rw [← Scope.resolve_traversals h]
    exact JoinPlan.allocateAll_keys _
  case few =>
    rw [Filter.leafCount_eq, ← Scope.resolve_leaves h]
    exact JoinPlan.ofFilter_length_le resolved
  case once =>
    rw [Predicate.occurrences_lowered serves]
    exact nodup_eraseDups _
  case referred =>
    rw [Predicate.occurrences_lowered serves]
    exact JoinPlan.ofFilter_occurrences resolved size
  case assembled => exact Scope.lowered_eq h serves
  case direct => exact fun l hl => Scope.condition_direct h hl
  case joined => exact fun l hl r => Scope.condition_joined sound fits h hl
  case shared => exact fun l hl l' hl' => Scope.condition_shared sound fits size h hl hl'

/-- The joins of a compiled plan are planned from its filter and are not added to when the filter is
lowered, with the index of a planner or without; they are canonical. -/
theorem compiled_joins_canonical {registry : Registry} {entities : List Entity}
    {aliases : List EntityAlias} (built : Registry.build entities aliases = .ok registry)
    {config : Config} {name : String} {filter orderBy : Json} {page : Option Page} {plan : Plan}
    (compiled : (Compiler.mk registry config).compile name filter orderBy page = .ok plan)
    (size : plan.joins.length < UInt32.size) :
    ∃ root f resolved, (Compiler.mk registry config).root name = .ok root ∧
      Filter.parse config.bounds filter = .ok f ∧
      ((Compiler.mk registry config).scope root).resolve f = .ok resolved ∧
      (JoinPlanner.ofFilter resolved).plan = ⟨plan.joins⟩ ∧
      Compiler.lower resolved = (plan.predicate, ⟨plan.joins⟩) ∧
      JoinPlan.ofFilter resolved = ⟨plan.joins⟩ ∧
      Predicate.ofFilter (JoinPlan.ofFilter resolved) resolved = (plan.predicate, ⟨plan.joins⟩) ∧
      plan.Canonical ((Compiler.mk registry config).scope root) f := by
  have consistent := Registry.build_consistent built
  obtain ⟨root, resolved, terms, start, hresolved, -, rfl⟩ := Compiler.compile_eq_ok compiled
  obtain ⟨f, hparse, h⟩ := bind_eq_ok.mp hresolved
  have hresolve : ((Compiler.mk registry config).scope root).resolve f = .ok resolved := h
  have lowered := Compiler.lower_lowered resolved
  refine ⟨root, f, resolved, start, hparse, hresolve, JoinPlanner.ofFilter_plan resolved, lowered,
    rfl, (Compiler.lower_eq resolved).symm.trans lowered, ?_⟩
  exact Plan.canonical_of_resolved consistent (Compiler.root_mem start)
    (Filter.parse_reads hparse).1.full hresolve rfl rfl size

namespace Spelled

/-- Books with a writer by its alias and by the relation, and with an editor by the name of the
entity and by the relation. -/
def spellings : Json :=
  .array [.string "and", .array [
    .array [.string "Writer", .string "name", .string "=", .string "Ann"],
    .array [.string "Book", .string "Author", .string "in", .array [.int 3, .null]],
    .array [.string "not", .array [.string "Book", .string "writer", .string "id", .string ">",
      .int 1]],
    .array [.string "Book", .string "editor", .string "=", .null],
    .array [.string "Book", .string "id", .string "<", .int 9]]]

def spelledPlan : Plan where
  root := "Book"
  predicate := .and [.exist ⟨1⟩ (.compare ⟨⟨1⟩, "name"⟩ .eq (.string "Ann")),
    .exist ⟨2⟩ (.or [.isIn ⟨⟨2⟩, "id"⟩ [.integer 3], .isNull ⟨⟨2⟩, "id"⟩]),
    .not (.exist ⟨1⟩ (.compare ⟨⟨1⟩, "id"⟩ .gt (.integer 1))), .related ⟨2⟩ false,
    .compare ⟨.root, "id"⟩ .lt (.integer 9)]
  joins := [⟨⟨1⟩, "Book", "writer", "Author", .toOne⟩, ⟨⟨2⟩, "Book", "editor", "Author", .toOne⟩]
  orderBy := [⟨⟨.root, "id"⟩, .asc, false⟩]
  page := none

end Spelled

theorem spellings_share_joins :
    ∃ f, Spelled.spelledPlan.Canonical
      ((Compiler.mk Registry.Sample.library { normalizeStrings := false }).scope
        Registry.Sample.book) f := by
  have built : Registry.build [Registry.Sample.book, Registry.Sample.author]
      [Registry.Sample.writer] = .ok Registry.Sample.library := rfl
  have compiled : (Compiler.mk Registry.Sample.library { normalizeStrings := false }).compile "Book"
      Spelled.spellings .null none = .ok Spelled.spelledPlan := (Compiler.compile_eq ..).trans rfl
  obtain ⟨root, f, resolved, start, -, -, -, -, -, -, canonical⟩ :=
    compiled_joins_canonical built compiled (by decide)
  cases start
  exact ⟨f, canonical⟩

end FieldSearch
