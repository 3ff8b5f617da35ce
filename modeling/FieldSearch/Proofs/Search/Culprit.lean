import FieldSearch.Proofs.Filter.Bounds
import FieldSearch.Proofs.Schema.Acceptance
import FieldSearch.Proofs.Search.WellFormed

/-!
# What an error of a search points at

A filter is read, its leaves are resolved from left to right, and then the ordering is bound. Each
stage stops at its first error, and an error that names a part of the request names one of the
filter or of the ordering as the client wrote it.
-/

namespace FieldSearch

/-! ### Leaves -/

namespace Scope

variable {scope : Scope} {l : Leaf} {err : SearchError}

theorem compareLeaf_error {via : Option Relation} {e : Entity} {a : Attribute}
    (h : scope.compareLeaf l via e a = .error err) : err.expression? = some l.source := by
  rw [compareLeaf] at h
  split at h
  · cases h; rfl
  · split at h <;> cases h
    rfl

theorem presenceLeaf_error {e : Entity} {r : Relation} (h : presenceLeaf l e r = .error err) :
    err.expression? = some l.source := by
  rw [presenceLeaf] at h
  split at h <;> cases h
  rfl

theorem defaultTraversal_error {name : String} (h : scope.defaultTraversal l name = .error err) :
    err.expression? = some l.source := by
  rw [defaultTraversal] at h
  split at h <;> cases h
  rfl

theorem rootName_error {name : String} (h : scope.rootName l name = .error err) :
    err.expression? = some l.source := by
  unfold rootName at h
  split at h
  next => exact compareLeaf_error h
  next =>
    split at h
    next => exact presenceLeaf_error h
    next =>
      split at h
      next => cases h; rfl
      next =>
        rcases bind_eq_error.mp h with h | ⟨r, -, h⟩
        · exact defaultTraversal_error h
        · split at h
          next => exact compareLeaf_error h
          next => cases h; rfl

theorem viaDefault_error {e : Entity} {other : Option EntityAlias} {name : String}
    (h : scope.viaDefault l e other name = .error err) : err.expression? = some l.source := by
  rcases bind_eq_error.mp h with h | ⟨r, -, h⟩
  · exact defaultTraversal_error h
  · by_cases allowed : other.all (·.allows name) = true
    · simp only [allowed, Bool.not_true, Bool.false_eq_true, if_false] at h
      split at h
      next => exact compareLeaf_error h
      next =>
        split at h <;> cases h
        · rfl
        · rfl
    · simp only [allowed, Bool.not_false, if_true] at h
      cases h
      rfl

theorem viaRelation_error {relation name : String}
    (h : scope.viaRelation l relation name = .error err) : err.expression? = some l.source := by
  unfold viaRelation at h
  split at h
  next => cases h; rfl
  next =>
    split at h
    next => cases h; rfl
    next =>
      split at h
      next => exact compareLeaf_error h
      next =>
        split at h <;> cases h
        · rfl
        · rfl

/-- The leaf, by itself, is accepted. -/
def Resolves (scope : Scope) (l : Leaf) : Prop := ∃ r, scope.leaf l = .ok r

/-- The error of a leaf names the leaf as the client wrote it. -/
theorem leaf_error (h : scope.leaf l = .error err) : err.expression? = some l.source := by
  unfold leaf at h
  split at h
  next => cases h; rfl
  next =>
    split at h
    next => cases h; rfl
    next =>
      split at h
      next =>
        split at h
        next => exact rootName_error h
        next => exact viaDefault_error h
      next =>
        split at h
        next => exact viaRelation_error h
        next => cases h; rfl
      next => cases h; rfl

end Scope

/-! ### Orderings -/

namespace SortKey

variable {j : Json} {key : SortKey} {err : SearchError}

theorem direction?_error {rest : List String} (h : direction? j rest = .error err) :
    err.expression? = some j := by
  cases rest with
  | nil => cases h
  | cons s rest =>
    rw [direction?] at h
    split at h <;> cases h
    rfl

theorem parse_source (h : parse j = .ok key) : key.source = j := by
  unfold parse at h
  split at h
  next =>
    split at h
    next => cases h
    next =>
      split at h
      next =>
        obtain ⟨direction, -, h⟩ := bind_eq_ok.mp h
        cases h
        rfl
      next => cases h
  next => cases h

theorem parse_error (h : parse j = .error err) : err.expression? = some j := by
  unfold parse at h
  split at h
  next =>
    split at h
    next => cases h; rfl
    next =>
      split at h
      next =>
        rcases bind_eq_error.mp h with h | ⟨direction, -, h⟩
        · exact direction?_error h
        · cases h
      next => cases h; rfl
  next => cases h; rfl

/-- Keys stand in the ordering as the client wrote them. -/
theorem parseAll_source {keys : List SortKey} (h : parseAll j = .ok keys) :
    ∀ key ∈ keys, key.source.OccursIn j := by
  unfold parseAll at h
  split at h
  next => cases h; simp
  next => cases h; simp
  next =>
    obtain ⟨key, hkey, h⟩ := bind_eq_ok.mp h
    cases h
    rw [List.forall_mem_singleton, parse_source hkey]
    exact .self _
  next =>
    intro key hkey
    obtain ⟨item, hitem, hparse⟩ := forall₂_mem_right (mapM_eq_ok.mp h) hkey
    rw [parse_source hparse]
    exact .item hitem (.self item)
  next => cases h

theorem parseAll_error (h : parseAll j = .error err) :
    ∃ part, err.expression? = some part ∧ part.OccursIn j := by
  unfold parseAll at h
  split at h
  next => cases h
  next => cases h
  next =>
    rcases bind_eq_error.mp h with h | ⟨key, -, h⟩
    · exact ⟨_, parse_error h, .self _⟩
    · cases h
  next =>
    obtain ⟨before, item, after, rfl, -, failed⟩ := mapM_eq_error.mp h
    exact ⟨item, parse_error failed, .item (by simp) (.self item)⟩
  next => cases h; exact ⟨_, rfl, .self _⟩

end SortKey

theorem OrderTerm.ofKey_error {registry : Registry} {root : Entity} {key : SortKey}
    {err : SearchError} (h : ofKey registry root key = .error err) :
    err.expression? = some key.source := by
  unfold ofKey at h
  split at h
  next => cases h; rfl
  next =>
    split at h
    next => cases h
    next => cases h; rfl

namespace Compiler

variable {c : Compiler} {name : String} {root : Entity} {filter orderBy : Json}
  {page : Option Page} {err : SearchError}

/-- The error of an ordering names a part of it. -/
theorem ordering_error (h : c.ordering root orderBy = .error err) :
    ∃ part, err.expression? = some part ∧ part.OccursIn orderBy := by
  rcases bind_eq_error.mp h with h | ⟨keys, hkeys, h⟩
  · exact SortKey.parseAll_error h
  · rcases bind_eq_error.mp h with h | ⟨terms, -, h⟩
    · obtain ⟨before, key, after, rfl, -, failed⟩ := mapM_eq_error.mp h
      exact ⟨key.source, OrderTerm.ofKey_error failed,
        SortKey.parseAll_source hkeys key (by simp)⟩
    · split at h <;> cases h

/-- Without sort keys an ordering has no error. -/
theorem exists_ordering_null (c : Compiler) (root : Entity) :
    ∃ terms, c.ordering root .null = .ok terms := by
  simp only [ordering, SortKey.parseAll, OrderTerm.ofKeys, bind, Except.bind, pure, Except.pure,
    List.mapM_nil]
  split <;> exact ⟨_, rfl⟩

/-- An ordering is looked at once the filter has been resolved. -/
theorem compile_eq_error (start : c.root name = .ok root) :
    c.compile name filter orderBy page = .error err ↔ c.resolve root filter = .error err ∨
      (∃ r, c.resolve root filter = .ok r) ∧ c.ordering root orderBy = .error err := by
  simp only [compile, start]
  change (c.resolve root filter >>= _) = _ ↔ _
  rw [bind_eq_error]
  refine or_congr_right ⟨?_, ?_⟩
  · rintro ⟨r, hr, h⟩
    rcases bind_eq_error.mp h with h | ⟨terms, -, h⟩
    · exact ⟨⟨r, hr⟩, h⟩
    · cases h
  · rintro ⟨⟨r, hr⟩, h⟩
    exact ⟨r, hr, bind_eq_error.mpr (.inl h)⟩

section Bounded

variable (start : c.root name = .ok root)

include start

theorem compile_parse_error (h : Filter.parse c.config.bounds filter = .error err)
    (orderBy : Json) (page : Option Page) : c.compile name filter orderBy page = .error err :=
  (compile_eq_error start).mpr (.inl (bind_eq_error.mpr (.inl h)))

variable {f : Filter} (parsed : Filter.parse c.config.bounds filter = .ok f)

include parsed

/-- Where not all leaves resolve, a search fails as it does with the first of these that does not
for its filter. -/
theorem compile_leaf_error (h : (c.scope root).resolve f = .error err) :
    ∃ l, FirstWithout (c.scope root).Resolves f.leaves l ∧ err.expression? = some l.source ∧
      ∀ orderBy page, c.compile name filter orderBy page = .error err ∧
        c.compile name l.source orderBy page = .error err := by
  obtain ⟨before, l, after, hleaves, passed, failed⟩ := Scope.resolve_eq_error.mp h
  have stuck : ¬ (c.scope root).Resolves l := by
    rintro ⟨r, hr⟩
    cases hr.symm.trans failed
  have first : FirstWithout (c.scope root).Resolves f.leaves l :=
    ⟨before, after, hleaves, passed, stuck⟩
  obtain ⟨mirrors, deep, wide⟩ := Filter.parse_eq_ok.mp parsed
  obtain ⟨-, source⟩ := mirrors.source l first.mem
  have own : Filter.parse c.config.bounds l.source = .ok (.leaf l) := by
    rw [Filter.leafCount_eq, hleaves, List.length_append, List.length_cons] at wide
    have hdepth := Filter.one_le_depth f
    refine Filter.parse_eq_ok.mpr ⟨source, ?_, ?_⟩
    · simp only [Filter.depth]
      omega
    · simp only [Filter.leafCount]
      omega
  have single : (c.scope root).resolve (.leaf l) = .error err := by
    rw [Scope.resolve, failed]
    rfl
  refine ⟨l, first, Scope.leaf_error failed, fun orderBy page => ⟨?_, ?_⟩⟩
  · exact (compile_eq_error start).mpr (.inl (bind_eq_error.mpr (.inr ⟨f, parsed, h⟩)))
  · exact (compile_eq_error start).mpr (.inl (bind_eq_error.mpr (.inr ⟨_, own, single⟩)))

/-- Where all leaves resolve, a search fails just if its ordering does. -/
theorem compile_ordering_error (each : ∀ l ∈ f.leaves, (c.scope root).Resolves l) :
    c.compile name filter orderBy page = .error err ↔ c.ordering root orderBy = .error err := by
  obtain ⟨r, hr⟩ := (Scope.exists_resolve f).mpr each
  have hresolve : c.resolve root filter = .ok r := bind_eq_ok.mpr ⟨f, parsed, hr⟩
  rw [compile_eq_error start, hresolve]
  simp

theorem compile_unordered (each : ∀ l ∈ f.leaves, (c.scope root).Resolves l)
    (page : Option Page) : ∃ plan, c.compile name filter .null page = .ok plan := by
  obtain ⟨r, hr⟩ := (Scope.exists_resolve f).mpr each
  obtain ⟨terms, hterms⟩ := exists_ordering_null c root
  exact ⟨_, compile_of_stages start (bind_eq_ok.mpr ⟨f, parsed, hr⟩) hterms page⟩

omit parsed

/-- What an error names occurs in the filter or in the ordering. -/
theorem compile_error_occurs (within : ¬ Filter.Over c.config.bounds (measure filter))
    (h : c.compile name filter orderBy page = .error err) :
    ∃ part, err.expression? = some part ∧ (part.OccursIn filter ∨ part.OccursIn orderBy) := by
  rcases (compile_eq_error start).mp h with h | ⟨-, h⟩
  · rcases bind_eq_error.mp h with h | ⟨f, parsed, h⟩
    · obtain ⟨culprit, first, named, -⟩ := Filter.parse_culprit within h
      exact ⟨culprit, named, .inl (Filter.nodes_occur first.mem)⟩
    · obtain ⟨l, first, named, -⟩ := compile_leaf_error start parsed h
      obtain ⟨source, -⟩ := (Filter.parse_eq_ok.mp parsed).1.source l first.mem
      exact ⟨l.source, named, .inl (Filter.nodes_occur source)⟩
  · obtain ⟨part, named, occurs⟩ := ordering_error h
    exact ⟨part, named, .inr occurs⟩

end Bounded

open FieldSearch.Filter in
/-- A filter within the bounds that is not read has the error of its first node of the wrong shape,
from the outside in and from left to right, which this node has as a filter of its own. One that is
read, but has leaves that do not resolve, has the error that the first of these has as a filter of
its own. Only if all leaves resolve, an error is that of the ordering. Every error names a part of
the filter or of the ordering. -/
theorem errors_name_first_culprit (start : c.root name = .ok root)
    (within : ¬ Over c.config.bounds (measure filter)) :
    ((∃ f, parse c.config.bounds filter = .ok f) ↔ ∀ n ∈ nodes filter, WellShaped n) ∧
    (∀ e, parse c.config.bounds filter = .error e →
      ∃ culprit, FirstWithout WellShaped (nodes filter) culprit ∧
        parse c.config.bounds culprit = .error e ∧ e.expression? = some culprit ∧
        ∀ orderBy page, c.compile name filter orderBy page = .error e ∧
          c.compile name culprit orderBy page = .error e) ∧
    (∀ f, parse c.config.bounds filter = .ok f →
      ((¬ ∀ l ∈ f.leaves, (c.scope root).Resolves l) →
        ∃ l e, FirstWithout (c.scope root).Resolves f.leaves l ∧ e.expression? = some l.source ∧
          ∀ orderBy page, c.compile name filter orderBy page = .error e ∧
            c.compile name l.source orderBy page = .error e) ∧
      ((∀ l ∈ f.leaves, (c.scope root).Resolves l) → ∀ orderBy page,
        (∃ plan, c.compile name filter .null page = .ok plan) ∧
          ∀ e, c.compile name filter orderBy page = .error e ↔
            c.ordering root orderBy = .error e)) ∧
    ∀ orderBy page e, c.compile name filter orderBy page = .error e →
      ∃ part : Json, (part.OccursIn filter ∨ part.OccursIn orderBy) ∧
        e.expression?.map Json.compact = some part.compact := by
  refine ⟨exists_parse_iff within, ?misshapen, fun f parsed => ⟨?unresolved, ?ordered⟩, ?named⟩
  case misshapen =>
    intro e h
    obtain ⟨culprit, first, named, own⟩ := parse_culprit within h
    exact ⟨culprit, first, own, named, fun orderBy page =>
      ⟨compile_parse_error start h orderBy page, compile_parse_error start own orderBy page⟩⟩
  case unresolved =>
    intro stuck
    cases hresolve : (c.scope root).resolve f with
    | ok r => exact absurd ((Scope.exists_resolve f).mp ⟨r, hresolve⟩) stuck
    | error e =>
      obtain ⟨l, first, blamed⟩ := compile_leaf_error start parsed hresolve
      exact ⟨l, e, first, blamed⟩
  case ordered =>
    intro each orderBy page
    exact ⟨compile_unordered start parsed each page,
      fun e => compile_ordering_error start parsed each⟩
  case named =>
    intro orderBy page e h
    obtain ⟨part, named, occurs⟩ := compile_error_occurs start within h
    exact ⟨part, occurs, by rw [named, Option.map_some]⟩

namespace Trial

def leafOn (entity name : String) : Leaf :=
  ⟨[entity, name], .eq, .int 1, Filter.leafNode [entity, name] "=" (.int 1)⟩

def childless : Json := .array [.string "or", .array []]

/-- The first part, which is read, does not resolve; the last is no filter either. -/
def misshapen : Json :=
  .array [.string "and",
    .array [(leafOn "Book" "title").source, .array [.string "not", childless], .null]]

def unresolved : Json :=
  .array [.string "and", .array [(leafOn "Book" "id").source,
    .array [.string "not", (leafOn "Book" "title").source], (leafOn "Bookcase" "id").source]]

end Trial

open Registry.Sample Compiler.Trial in
theorem sample_culprits :
    (mk library {}).root "Book" = .ok book ∧
    ¬ Filter.Over (mk library {}).config.bounds (measure misshapen) ∧
    (mk library {}).compile "Book" misshapen (.bool true) none =
      .error (.malformed .noChildren childless) ∧
    ¬ Filter.Over (mk library {}).config.bounds (measure unresolved) ∧
    ∃ e, e.expression? = some (leafOn "Book" "title").source ∧
      (mk library {}).compile "Book" unresolved (.bool true) none = .error e ∧
      (mk library {}).compile "Book" (leafOn "Book" "title").source .null none = .error e := by
  have start : (mk library {}).root "Book" = .ok book := by rfl
  have small : ¬ Filter.Over (mk library {}).config.bounds (measure misshapen) := by decide
  have small' : ¬ Filter.Over (mk library {}).config.bounds (measure unresolved) := by decide
  obtain ⟨-, unread, -, -⟩ := errors_name_first_culprit start small
  obtain ⟨-, -, read, -⟩ := errors_name_first_culprit start small'
  obtain ⟨_, -, -, -, refused⟩ := unread (.malformed .noChildren childless) (by rfl)
  refine ⟨start, small, (refused _ _).1, small', ?_⟩
  obtain ⟨stopped, -⟩ := read (.and [.leaf (leafOn "Book" "id"),
    .not (.leaf (leafOn "Book" "title")), .leaf (leafOn "Bookcase" "id")]) (by rfl)
  have stuck : ¬ ((mk library {}).scope book).Resolves (leafOn "Book" "title") := by
    rintro ⟨r, h⟩
    cases h
  obtain ⟨l, e, first, named, refused⟩ :=
    stopped fun each => stuck (each _ (List.mem_cons_of_mem _ List.mem_cons_self))
  obtain ⟨before, after, hleaves, passed, fails⟩ := first
  match before with
  | [] =>
    cases hleaves
    exact absurd ⟨_, rfl⟩ fails
  | [_] =>
    cases hleaves
    exact ⟨e, named, (refused _ _).1, (refused _ _).2⟩
  | _ :: second :: _ =>
    have hsecond : leafOn "Book" "title" = second := (List.cons.inj (List.cons.inj hleaves).2).1
    exact absurd (passed second (by simp)) (hsecond ▸ stuck)

end Compiler

end FieldSearch
