import FieldSearch.Proofs.Filter.Grammar
import FieldSearch.Proofs.Schema.Acceptance
import FieldSearch.Proofs.Search.WellFormed

/-!
# Implicit paths

A path that starts from another entity, or from an alias of one, takes the default way there and
resolves to what the path over that relation resolves to. The name of the other entity after the
root's stands for its primary key, and so for the path from that entity to its key. Only the first
of these names has to be that of a searchable entity.
-/

namespace FieldSearch

namespace Registry

/-- The name stands for the entity: it is the entity's own, or that of an alias of it. -/
def Names (registry : Registry) (name : String) (e : Entity) : Prop :=
  e ∈ registry.entities ∧
    (e.name = name ∨ ∃ a ∈ registry.aliases, a.name = name ∧ a.entity = e.name)

/-- No alias of this name has a list of attributes that leaves the attribute out. -/
def Admits (registry : Registry) (name member : String) : Prop :=
  ∀ a ∈ registry.aliases, a.name = name → ∀ listed, a.attributes = some listed → member ∈ listed

theorem allows_eq_true {a : EntityAlias} {member : String} :
    a.allows member = true ↔ ∀ listed, a.attributes = some listed → member ∈ listed := by
  cases h : a.attributes <;> simp [EntityAlias.allows, h]

namespace Consistent

variable {registry : Registry} {name : String} {e : Entity}

theorem names_iff (consistent : registry.Consistent) :
    registry.Names name e ↔ ∃ other, registry.entityOrAlias? name = some (e, other) := by
  constructor
  · rintro ⟨he, rfl | ⟨a, ha, rfl, hentity⟩⟩
    · exact ⟨none, by simp [entityOrAlias?, consistent.entity? he]⟩
    · refine ⟨some a, ?_⟩
      simp [entityOrAlias?, consistent.entity?_alias ha, consistent.alias? ha, hentity,
        consistent.entity? he]
  · rintro ⟨other, h⟩
    rw [entityOrAlias?] at h
    split at h
    next found =>
      cases h
      obtain ⟨he, rfl⟩ := entity?_eq_some found
      exact ⟨he, .inl rfl⟩
    next =>
      simp only [Option.bind_eq_bind, Option.bind_eq_some_iff] at h
      obtain ⟨a, halias, target, found, h⟩ := h
      cases h
      obtain ⟨ha, hname⟩ := find?_name_eq_some halias
      obtain ⟨he, hentity⟩ := entity?_eq_some found
      exact ⟨he, .inr ⟨a, ha, hname, hentity.symm⟩⟩

/-- The alias that comes with a name allows what the name admits. -/
theorem admits_iff (consistent : registry.Consistent) {other : Option EntityAlias}
    (h : registry.entityOrAlias? name = some (e, other)) {member : String} :
    other.all (·.allows member) = true ↔ registry.Admits name member := by
  rw [entityOrAlias?] at h
  split at h
  next found =>
    cases h
    obtain ⟨he, rfl⟩ := entity?_eq_some found
    refine iff_of_true rfl fun a ha hname => ?_
    exact absurd hname.symm ((consistent.aliases a ha).fresh _ he)
  next =>
    simp only [Option.bind_eq_bind, Option.bind_eq_some_iff] at h
    obtain ⟨a, halias, target, found, h⟩ := h
    cases h
    obtain ⟨ha, rfl⟩ := find?_name_eq_some halias
    rw [Option.all_some, allows_eq_true]
    constructor
    · intro allowed b hb hname
      have same := consistent.alias? hb
      rw [hname, consistent.alias? ha] at same
      cases same
      exact allowed
    · exact fun admits => admits a ha rfl

theorem entityOrAlias?_alias (consistent : registry.Consistent) {a : EntityAlias}
    (ha : a ∈ registry.aliases) :
    ∃ e, registry.entityOrAlias? a.name = some (e, some a) ∧ e.name = a.entity := by
  obtain ⟨e, found, -⟩ := (consistent.aliases a ha).entity
  refine ⟨e, ?_, (find?_name_eq_some found).2⟩
  have hentity : registry.entity? a.entity = some e := found
  simp [entityOrAlias?, consistent.entity?_alias ha, consistent.alias? ha, hentity]

/-- A relation that is marked as the default way to a name is the one that is found. -/
theorem defaultTraversal?_iff (consistent : registry.Consistent) (he : e ∈ registry.entities)
    {r : Relation} :
    e.defaultTraversal? name = some r ↔
      r ∈ e.relations ∧ r.isDefault = true ∧ r.defaultKey = name := by
  refine ⟨Entity.defaultTraversal?_eq_some, ?_⟩
  rintro ⟨hr, isDefault, hkey⟩
  have one := consistent.defaultsFor_le he name
  rw [Entity.defaultTraversal?, ← List.head?_filter, ← defaultsFor]
  have hmem : r ∈ defaultsFor e name := List.mem_filter.mpr ⟨hr, by simp [isDefault, hkey]⟩
  cases h : defaultsFor e name with
  | nil => simp [h] at hmem
  | cons r' rest =>
    rw [h, List.length_cons] at one
    obtain rfl : rest = [] := List.eq_nil_of_length_eq_zero (by omega)
    rw [h, List.mem_singleton] at hmem
    rw [hmem, List.head?_cons]

end Consistent

theorem searchableOrAlias?_eq {registry : Registry} {name : String} {e : Entity}
    {other : Option EntityAlias} (h : registry.entityOrAlias? name = some (e, other)) :
    registry.searchableOrAlias? name = if e.searchable then some (e, other) else none := by
  rw [searchableOrAlias?, h, Option.filter_some]

theorem searchableOrAlias?_of_searchable {registry : Registry} {name : String} {e : Entity}
    (h : registry.searchable? name = some e) :
    registry.searchableOrAlias? name = some (e, none) := by
  obtain ⟨found, searchable⟩ := searchable?_eq_some h
  have named : registry.entityOrAlias? name = some (e, none) := by simp [entityOrAlias?, found]
  rw [searchableOrAlias?_eq named, if_pos searchable]

end Registry

/-- The leaf names the alias: its path starts from it, or follows the root's name with it. -/
def Leaf.NamesAlias (l : Leaf) (root : Entity) (other : EntityAlias) : Prop :=
  l.path.head? = some other.name ∨
    l.path = [root.name, other.name] ∧ other.name ∉ root.memberNames

/-- The leaf compares an attribute that the alias lists, if it lists any, over the default way of
the root to the alias. -/
def ResolvedLeaf.Confined (resolved : ResolvedLeaf) (root : Entity) (other : EntityAlias) : Prop :=
  ∃ r ∈ root.relations, r.isDefault = true ∧ r.defaultKey = other.name ∧
    ∃ name comparison operand, (∀ listed, other.attributes = some listed → name ∈ listed) ∧
      resolved = .compare (some ⟨root.name, r⟩) other.entity name comparison operand

namespace Scope

variable {scope : Scope}

/-! ### The text of a leaf -/

section Source

variable (source : Json) (l : Leaf)

theorem compareLeaf_source (via : Option Relation) (e : Entity) (a : Attribute) :
    (scope.compareLeaf { l with source } via e a).mapError SearchError.code =
      (scope.compareLeaf l via e a).mapError SearchError.code := by
  simp only [compareLeaf]
  split
  · rfl
  · cases scope.operand l.comparison a.type l.operand <;> rfl

theorem presenceLeaf_source (e : Entity) (r : Relation) :
    (presenceLeaf { l with source } e r).mapError SearchError.code =
      (presenceLeaf l e r).mapError SearchError.code := by
  simp only [presenceLeaf]
  split <;> rfl

theorem defaultTraversal_source (name : String) :
    (scope.defaultTraversal { l with source } name).mapError SearchError.code =
      (scope.defaultTraversal l name).mapError SearchError.code := by
  simp only [defaultTraversal]
  split <;> rfl

theorem rootName_source (name : String) :
    (scope.rootName { l with source } name).mapError SearchError.code =
      (scope.rootName l name).mapError SearchError.code := by
  simp only [rootName]
  split
  · exact compareLeaf_source source l none _ _
  · split
    · exact presenceLeaf_source source l _ _
    · split
      · rfl
      · refine mapError_bind_congr (defaultTraversal_source source l name) fun r => ?_
        split
        · exact compareLeaf_source source l _ _ _
        · rfl

theorem viaDefault_source (e : Entity) (other : Option EntityAlias) (name : String) :
    (scope.viaDefault { l with source } e other name).mapError SearchError.code =
      (scope.viaDefault l e other name).mapError SearchError.code := by
  simp only [viaDefault]
  refine mapError_bind_congr (defaultTraversal_source source l _) fun r => ?_
  split
  · rfl
  · split
    · exact compareLeaf_source source l _ _ _
    · split <;> rfl

theorem viaRelation_source (relation name : String) :
    (scope.viaRelation { l with source } relation name).mapError SearchError.code =
      (scope.viaRelation l relation name).mapError SearchError.code := by
  simp only [viaRelation]
  split
  · rfl
  · split
    · rfl
    · split
      · exact compareLeaf_source source l _ _ _
      · split <;> rfl

/-- What the client wrote makes no difference to a leaf but in the texts of errors. -/
theorem leaf_source (scope : Scope) :
    (scope.leaf { l with source }).mapError SearchError.code =
      (scope.leaf l).mapError SearchError.code := by
  obtain ⟨path, comparison, operand, written⟩ := l
  have hops : Leaf.hops ⟨path, comparison, operand, source⟩ =
      Leaf.hops ⟨path, comparison, operand, written⟩ := rfl
  have start : Leaf.entity ⟨path, comparison, operand, source⟩ =
      Leaf.entity ⟨path, comparison, operand, written⟩ := rfl
  simp only [leaf, hops, start]
  split
  · rfl
  · split
    · rfl
    · split
      · split
        · exact rootName_source source ⟨_, comparison, operand, written⟩ _
        · exact viaDefault_source source ⟨_, comparison, operand, written⟩ _ _ _
      · split
        · exact viaRelation_source source ⟨_, comparison, operand, written⟩ _ _
        · rfl
      · rfl

end Source

/-! ### The way that a leaf takes -/

section Way

variable {comparison : Comparison} {operand source : Json} {first name : String} {e : Entity}
  {other : Option EntityAlias} {r : Relation} {l : Leaf} {resolved : ResolvedLeaf}

theorem leaf_root (start : scope.registry.searchable? scope.root.name = some scope.root) :
    scope.leaf ⟨[scope.root.name, name], comparison, operand, source⟩ =
      scope.rootName ⟨[scope.root.name, name], comparison, operand, source⟩ name := by
  have found := Registry.searchableOrAlias?_of_searchable start
  simp [leaf, Leaf.hops, Leaf.entity, found]

theorem leaf_relation (start : scope.registry.searchable? scope.root.name = some scope.root)
    {relation : String} :
    scope.leaf ⟨[scope.root.name, relation, name], comparison, operand, source⟩ =
      scope.viaRelation ⟨[scope.root.name, relation, name], comparison, operand, source⟩ relation
        name := by
  have found := Registry.searchableOrAlias?_of_searchable start
  simp [leaf, Leaf.hops, Leaf.entity, maxHops, found]

theorem leaf_other (apart : first ≠ scope.root.name)
    (h : scope.registry.searchableOrAlias? first = some (e, other)) :
    scope.leaf ⟨[first, name], comparison, operand, source⟩ =
      scope.viaDefault ⟨[first, name], comparison, operand, source⟩ e other name := by
  simp [leaf, Leaf.hops, Leaf.entity, h, apart]

/-- What resolves without the root's name to start from takes the default way. -/
theorem leaf_elsewhere (apart : l.entity ≠ scope.root.name) (h : scope.leaf l = .ok resolved) :
    ∃ e other name, scope.registry.searchableOrAlias? l.entity = some (e, other) ∧
      scope.viaDefault l e other name = .ok resolved := by
  have first : ∀ {name rest}, l.path = name :: rest → name ≠ scope.root.name := by
    intro name rest hpath
    rwa [Leaf.entity, hpath, List.headD_cons] at apart
  unfold leaf at h
  split at h
  next => cases h
  next =>
    split at h
    next => cases h
    next e other hsearch =>
      split at h
      next name hpath =>
        rw [if_neg (first hpath)] at h
        exact ⟨e, other, name, hsearch, h⟩
      next relation name hpath =>
        rw [if_neg (first hpath)] at h
        cases h
      next => cases h

theorem leaf_hidden (h : scope.registry.searchableOrAlias? first = none) :
    scope.leaf ⟨[first, name], comparison, operand, source⟩ =
      .error (.unknownEntity first source) := by
  simp [leaf, Leaf.hops, Leaf.entity, h]

theorem defaultTraversal_of_some (h : scope.root.defaultTraversal? name = some r) :
    scope.defaultTraversal l name = .ok r := by
  simp only [defaultTraversal, h]

theorem viaDefault_eq_ok :
    scope.viaDefault l e other name = .ok resolved ↔
      other.all (·.allows name) = true ∧ ∃ r, scope.root.defaultTraversal? l.entity = some r ∧
        ∃ a, e.attribute? name = some a ∧ scope.compareLeaf l (some r) e a = .ok resolved := by
  rw [viaDefault]
  constructor
  · intro h
    obtain ⟨r, hr, h⟩ := bind_eq_ok.mp h
    by_cases allowed : other.all (·.allows name) = true
    · simp only [allowed, Bool.not_true, Bool.false_eq_true, if_false] at h
      split at h
      next a ha => exact ⟨allowed, r, defaultTraversal_eq_ok hr, a, ha, h⟩
      next => split at h <;> cases h
    · simp only [allowed, Bool.not_false, if_true] at h
      cases h
  · rintro ⟨allowed, r, hr, a, ha, h⟩
    refine bind_eq_ok.mpr ⟨r, defaultTraversal_of_some hr, ?_⟩
    simp only [allowed, Bool.not_true, Bool.false_eq_true, if_false, ha]
    exact h

theorem viaRelation_eq_ok (hr : scope.root.relation? r.name = some r)
    (target : scope.registry.entity? r.target = some e) :
    scope.viaRelation l r.name name = .ok resolved ↔
      ∃ a, e.attribute? name = some a ∧ scope.compareLeaf l (some r) e a = .ok resolved := by
  simp only [viaRelation, hr, target]
  constructor
  · intro h
    split at h
    next a ha => exact ⟨a, ha, h⟩
    next => split at h <;> cases h
  · rintro ⟨a, ha, h⟩
    simpa only [ha] using h

/-- The name of another entity after the root's stands for the path to its primary key. -/
theorem rootName_eq_viaDefault (stranger : name ∉ scope.root.memberNames) {key : Attribute}
    (hkey : e.primaryKeyAttribute? = some key)
    (h : scope.registry.entityOrAlias? name = some (e, other)) :
    scope.rootName ⟨[scope.root.name, name], comparison, operand, source⟩ name =
      scope.viaDefault ⟨[name, e.primaryKey], comparison, operand, source⟩ e other
        e.primaryKey := by
  have hattribute : scope.root.attribute? name = none := by
    rw [Entity.attribute?, List.find?_eq_none]
    intro a ha hname
    exact stranger (List.mem_append_left _ (List.mem_map.mpr ⟨a, ha, by simpa using hname⟩))
  have hrelation : scope.root.relation? name = none := by
    rw [Entity.relation?, List.find?_eq_none]
    intro r hr hname
    exact stranger (List.mem_append_right _ (List.mem_map.mpr ⟨r, hr, by simpa using hname⟩))
  have found : e.attribute? e.primaryKey = some key := hkey
  have hname : key.name = e.primaryKey := (Entity.attribute?_eq_some hkey).2
  simp only [rootName, hattribute, hrelation, h, viaDefault, found, hkey, Option.filter_some, hname]
  refine congrArg _ (funext fun r => ?_)
  cases other.all (·.allows e.primaryKey) <;> rfl

end Way

section Default

variable {comparison : Comparison} {operand source : Json} {name member : String} {e : Entity}
  {resolved : ResolvedLeaf} (consistent : scope.registry.Consistent)
  (start : scope.registry.searchable? scope.root.name = some scope.root)

include consistent start

omit consistent start in
theorem viaDefault_confined {l : Leaf} {other : EntityAlias} (entity : l.entity = other.name)
    (names : e.name = other.entity)
    (h : scope.viaDefault l e (some other) member = .ok resolved) :
    resolved.Confined scope.root other := by
  obtain ⟨allowed, r, hr, a, ha, compared⟩ := viaDefault_eq_ok.mp h
  obtain ⟨hmem, isDefault, hkey⟩ := Entity.defaultTraversal?_eq_some hr
  obtain ⟨-, operand, -, rfl⟩ := compareLeaf_eq_ok compared
  refine ⟨r, hmem, isDefault, hkey.trans entity, a.name, l.comparison, operand, ?listed, ?shape⟩
  case listed =>
    rw [(Entity.attribute?_eq_some ha).2]
    exact Registry.allows_eq_true.mp allowed
  case shape => rw [names, Option.map_some]

/-- A leaf that names an alias takes no other relation and compares no attribute that is not
listed. -/
theorem leaf_alias {l : Leaf} {other : EntityAlias} (ha : other ∈ scope.registry.aliases)
    (names : l.NamesAlias scope.root other) (h : scope.leaf l = .ok resolved) :
    resolved.Confined scope.root other := by
  obtain ⟨e, hname, hentity⟩ := consistent.entityOrAlias?_alias ha
  rcases names with first | ⟨hpath, stranger⟩
  · have hstart : l.entity = other.name := by
      rw [Leaf.entity, List.headD_eq_head?_getD, first, Option.getD_some]
    have apart : l.entity ≠ scope.root.name := by
      intro same
      have taken := (Registry.searchable?_eq_some start).1
      rw [← same, hstart, consistent.entity?_alias ha] at taken
      cases taken
    obtain ⟨e', other', name, hsearch, h⟩ := leaf_elsewhere apart h
    rw [hstart] at hsearch
    cases (Option.filter_eq_some_iff.mp hsearch).1.symm.trans hname
    exact viaDefault_confined hstart hentity h
  · obtain ⟨key, hkey⟩ := Option.isSome_iff_exists.mp
      (consistent.sound e (consistent.names_iff.mpr ⟨_, hname⟩).1).key
    obtain ⟨path, comparison, operand, source⟩ := l
    cases hpath
    rw [leaf_root start, rootName_eq_viaDefault stranger hkey hname] at h
    exact viaDefault_confined rfl hentity h

/-- The relation that is the default way leads where the name does, so the paths over both find the
same attribute. -/
theorem viaDefault_explicit {other : Option EntityAlias}
    (h : scope.registry.entityOrAlias? name = some (e, other)) :
    scope.viaDefault ⟨[name, member], comparison, operand, source⟩ e other member =
        .ok resolved ↔
      scope.registry.Admits name member ∧
        ∃ r ∈ scope.root.relations, r.isDefault = true ∧ r.defaultKey = name ∧
          scope.leaf ⟨[scope.root.name, r.name, member], comparison, operand, source⟩ =
            .ok resolved := by
  have hroot := (Registry.entity?_eq_some (Registry.searchable?_eq_some start).1).1
  have explicit : ∀ r, scope.root.defaultTraversal? name = some r →
      (scope.leaf ⟨[scope.root.name, r.name, member], comparison, operand, source⟩ =
          .ok resolved ↔
        ∃ a, e.attribute? member = some a ∧
          scope.compareLeaf ⟨[name, member], comparison, operand, source⟩ (some r) e a =
            .ok resolved) := by
    intro r hr
    have hmem := (Entity.defaultTraversal?_eq_some hr).1
    have target := consistent.entityOrAlias?_default hroot hr h
    rw [leaf_relation start,
      viaRelation_eq_ok ((consistent.sound _ hroot).relation? hmem) target]
    rfl
  rw [viaDefault_eq_ok, consistent.admits_iff h]
  refine and_congr_right fun _ => ⟨?_, ?_⟩
  · rintro ⟨r, hr, compared⟩
    obtain ⟨hmem, isDefault, hkey⟩ := Entity.defaultTraversal?_eq_some hr
    exact ⟨r, hmem, isDefault, hkey, (explicit r hr).mpr compared⟩
  · rintro ⟨r, hmem, isDefault, hkey, h⟩
    have hr := (consistent.defaultTraversal?_iff hroot).mpr ⟨hmem, isDefault, hkey⟩
    exact ⟨r, hr, (explicit r hr).mp h⟩

/-- A leaf that starts from another entity or an alias resolves to what the leaf over the default
way to it resolves to. -/
theorem leaf_implicit (apart : name ≠ scope.root.name) :
    scope.leaf ⟨[name, member], comparison, operand, source⟩ = .ok resolved ↔
      (∃ e, scope.registry.Names name e ∧ e.searchable = true) ∧
        scope.registry.Admits name member ∧
        ∃ r ∈ scope.root.relations, r.isDefault = true ∧ r.defaultKey = name ∧
          scope.leaf ⟨[scope.root.name, r.name, member], comparison, operand, source⟩ =
            .ok resolved := by
  constructor
  · intro h
    cases hsearch : scope.registry.searchableOrAlias? name with
    | none =>
      rw [leaf_hidden hsearch] at h
      cases h
    | some found =>
      obtain ⟨e, other⟩ := found
      obtain ⟨hname, searchable⟩ := Option.filter_eq_some_iff.mp hsearch
      rw [leaf_other apart hsearch, viaDefault_explicit consistent start hname] at h
      exact ⟨⟨e, consistent.names_iff.mpr ⟨other, hname⟩, searchable⟩, h⟩
  · rintro ⟨⟨e, names, searchable⟩, h⟩
    obtain ⟨other, hname⟩ := consistent.names_iff.mp names
    have hsearch := Registry.searchableOrAlias?_eq hname
    rw [if_pos searchable] at hsearch
    rwa [leaf_other apart hsearch, viaDefault_explicit consistent start hname]

/-- The name after the root's resolves, searchable or not, to what the leaf over the default way to
the primary key resolves to. -/
theorem leaf_named (names : scope.registry.Names name e)
    (stranger : name ∉ scope.root.memberNames) :
    scope.leaf ⟨[scope.root.name, name], comparison, operand, source⟩ = .ok resolved ↔
      scope.registry.Admits name e.primaryKey ∧
        ∃ r ∈ scope.root.relations, r.isDefault = true ∧ r.defaultKey = name ∧
          scope.leaf ⟨[scope.root.name, r.name, e.primaryKey], comparison, operand, source⟩ =
            .ok resolved := by
  obtain ⟨other, hname⟩ := consistent.names_iff.mp names
  obtain ⟨key, hkey⟩ := Option.isSome_iff_exists.mp (consistent.sound e names.1).key
  rw [leaf_root start, rootName_eq_viaDefault stranger hkey hname,
    viaDefault_explicit consistent start hname]

/-- Where the entity is searchable, its name after the root's and the path from it to its key are
one leaf. -/
theorem leaf_named_searchable (names : scope.registry.Names name e)
    (apart : name ≠ scope.root.name) (stranger : name ∉ scope.root.memberNames)
    (searchable : e.searchable = true) :
    scope.leaf ⟨[scope.root.name, name], comparison, operand, source⟩ =
      scope.leaf ⟨[name, e.primaryKey], comparison, operand, source⟩ := by
  obtain ⟨other, hname⟩ := consistent.names_iff.mp names
  obtain ⟨key, hkey⟩ := Option.isSome_iff_exists.mp (consistent.sound e names.1).key
  have hsearch := Registry.searchableOrAlias?_eq hname
  rw [if_pos searchable] at hsearch
  rw [leaf_root start, rootName_eq_viaDefault stranger hkey hname, leaf_other apart hsearch]

end Default

end Scope

/-- A search starts from an entity that can be searched. -/
theorem Compiler.scope_searchable {c : Compiler} {name : String} {root : Entity}
    (start : c.root name = .ok root) :
    (c.scope root).registry.searchable? (c.scope root).root.name = some (c.scope root).root := by
  obtain ⟨-, rfl⟩ := Registry.entity?_eq_some (root_entity start)
  exact root_eq_ok.mp start

namespace Registry.Sample

def editor : Relation := (Relation.toOne "editor" "Author" "editor_id").asDefault

def byWriter : Relation := (Relation.toOne "writer" "Author" "writer_id").asDefaultFor "Writer"

theorem library_built : build [author, book] [writer] = .ok library := by rfl

theorem library_root : (Compiler.mk library {}).root "Book" = .ok book := by rfl

theorem library_names_author : library.Names "Author" author := ⟨List.mem_cons_self, .inl rfl⟩

def hiddenAuthor : Entity := { author with searchable := false }

/-- Authors can be searched for only over the books that are theirs. -/
def closedLibrary : Registry := ⟨[hiddenAuthor, book], [writer]⟩

end Registry.Sample

/-- The leaf that compares an attribute of another entity, named by itself or by an alias, resolves
just if the entity is searchable, the root has a default way to the name, the alias allows the
attribute, and the leaf over that relation resolves; and then to the same. A leaf that names an
alias is confined to it. -/
theorem implicit_path_takes_default_way {entities : List Entity} {aliases : List EntityAlias}
    {registry : Registry} (built : Registry.build entities aliases = .ok registry)
    {config : Config} {searched : String} {root : Entity}
    (start : (Compiler.mk registry config).root searched = .ok root) :
    (∀ name, name ≠ root.name → ∀ member comparison operand source source' resolved,
      ((Compiler.mk registry config).scope root).leaf
          ⟨[name, member], comparison, operand, source⟩ = .ok resolved ↔
        (∃ e, registry.Names name e ∧ e.searchable = true) ∧
          registry.Admits name member ∧
          ∃ r ∈ root.relations, r.isDefault = true ∧ r.defaultKey = name ∧
            ((Compiler.mk registry config).scope root).leaf
              ⟨[root.name, r.name, member], comparison, operand, source'⟩ = .ok resolved) ∧
    ∀ other ∈ registry.aliases, ∀ l : Leaf, l.NamesAlias root other → ∀ resolved,
      ((Compiler.mk registry config).scope root).leaf l = .ok resolved →
        resolved.Confined root other := by
  have consistent := Registry.build_consistent built
  have hsearch := Compiler.scope_searchable start
  constructor
  · intro name apart member comparison operand source source' resolved
    have rewritten := Scope.leaf_source source' ⟨[name, member], comparison, operand, source⟩
      ((Compiler.mk registry config).scope root)
    rw [← mapError_eq_ok (f := SearchError.code), ← rewritten, mapError_eq_ok]
    exact Scope.leaf_implicit consistent hsearch apart
  · intro other ha l names resolved h
    exact Scope.leaf_alias consistent hsearch ha names h

open Registry.Sample in
theorem writer_is_default_way :
    Registry.build [author, book] [writer] = .ok library ∧
      (Compiler.mk library {}).root "Book" = .ok book ∧
      ((Compiler.mk library {}).scope book).leaf ⟨["Writer", "name"], .ne, .null, .null⟩ =
        .ok (.compare (some ⟨"Book", byWriter⟩) "Author" "name" .ne (.single .null)) ∧
      (ResolvedLeaf.compare (some ⟨"Book", byWriter⟩) "Author" "name" .ne (.single .null)).Confined
        book writer := by
  obtain ⟨implicit, confined⟩ := implicit_path_takes_default_way library_built library_root
  have resolved := (implicit "Writer" (by decide) "name" .ne .null .null .null _).mpr
    ⟨⟨author, ⟨List.mem_cons_self, .inr ⟨writer, List.mem_cons_self, rfl, rfl⟩⟩, rfl⟩,
      fun a ha _ listed hlisted => by
        cases List.mem_singleton.mp ha
        cases hlisted
        exact List.mem_cons_self,
      byWriter, List.mem_cons_of_mem _ List.mem_cons_self, rfl, rfl, rfl⟩
  exact ⟨library_built, library_root, resolved,
    confined writer List.mem_cons_self _ (.inl rfl) _ resolved⟩

/-- The name of another entity after the root's resolves just if the leaf over the default way to
its primary key does, and then to the same. Where the entity is searchable this leaf and that from
the name to the key resolve to the same or fail with the same code. The latter fails where the
entity is not searchable. -/
theorem name_alone_stands_for_key {entities : List Entity} {aliases : List EntityAlias}
    {registry : Registry} (built : Registry.build entities aliases = .ok registry)
    {config : Config} {searched : String} {root : Entity}
    (start : (Compiler.mk registry config).root searched = .ok root) {name : String} {e : Entity}
    (names : registry.Names name e) (apart : name ≠ root.name)
    (stranger : name ∉ root.memberNames) (comparison : Comparison)
    (operand source source' : Json) :
    (∀ resolved, ((Compiler.mk registry config).scope root).leaf
        ⟨[root.name, name], comparison, operand, source⟩ = .ok resolved ↔
      registry.Admits name e.primaryKey ∧
        ∃ r ∈ root.relations, r.isDefault = true ∧ r.defaultKey = name ∧
          ((Compiler.mk registry config).scope root).leaf
            ⟨[root.name, r.name, e.primaryKey], comparison, operand, source⟩ = .ok resolved) ∧
    (e.searchable = true →
      (((Compiler.mk registry config).scope root).leaf
          ⟨[root.name, name], comparison, operand, source⟩).mapError SearchError.code =
        (((Compiler.mk registry config).scope root).leaf
          ⟨[name, e.primaryKey], comparison, operand, source'⟩).mapError SearchError.code) ∧
    (e.searchable = false →
      ((Compiler.mk registry config).scope root).leaf
          ⟨[name, e.primaryKey], comparison, operand, source'⟩ =
        .error (.unknownEntity name source')) := by
  have consistent := Registry.build_consistent built
  have hsearch := Compiler.scope_searchable start
  refine ⟨fun resolved => ?named, fun searchable => ?agree, fun hidden => ?hidden⟩
  case named => exact Scope.leaf_named consistent hsearch names stranger
  case agree =>
    have rewritten := Scope.leaf_source source' ⟨[name, e.primaryKey], comparison, operand, source⟩
      ((Compiler.mk registry config).scope root)
    rw [rewritten]
    exact congrArg (·.mapError SearchError.code)
      (Scope.leaf_named_searchable consistent hsearch names apart stranger searchable)
  case hidden =>
    obtain ⟨other, hname⟩ := consistent.names_iff.mp names
    refine Scope.leaf_hidden ?_
    have hiddenName := Registry.searchableOrAlias?_eq hname
    rwa [hidden] at hiddenName

open Registry.Sample in
theorem author_stands_for_key :
    (Compiler.mk library {}).root "Book" = .ok book ∧ library.Names "Author" author ∧
      "Author" ≠ book.name ∧ "Author" ∉ book.memberNames ∧
      ((Compiler.mk library {}).scope book).leaf ⟨["Book", "Author"], .eq, .int 7, .null⟩ =
        .ok (.compare (some ⟨"Book", editor⟩) "Author" "id" .eq (.single (.integer 7))) ∧
      ((Compiler.mk library {}).scope book).leaf ⟨["Author", "id"], .eq, .int 7, .null⟩ =
        .ok (.compare (some ⟨"Book", editor⟩) "Author" "id" .eq (.single (.integer 7))) := by
  have apart : "Author" ≠ book.name := by decide
  have stranger : "Author" ∉ book.memberNames := by decide
  obtain ⟨named, agree, -⟩ := name_alone_stands_for_key library_built library_root
    library_names_author apart stranger .eq (.int 7) .null .null
  have resolved := (named (.compare (some ⟨"Book", editor⟩) "Author" "id" .eq
    (.single (.integer 7)))).mpr ⟨fun a ha hname => by
      cases List.mem_singleton.mp ha
      exact absurd hname (by decide), editor, List.mem_cons_self, rfl, rfl, rfl⟩
  have same := agree rfl
  rw [resolved] at same
  exact ⟨library_root, library_names_author, apart, stranger, resolved,
    mapError_eq_ok.mp same.symm⟩

open Registry.Sample in
/-- An entity that is not searchable is searched by its name after the root's, and yet unknown where
a path starts from it. -/
theorem hidden_author_named :
    Registry.build [hiddenAuthor, book] [writer] = .ok closedLibrary ∧
      (Compiler.mk closedLibrary {}).root "Book" = .ok book ∧
      closedLibrary.Names "Author" hiddenAuthor ∧ hiddenAuthor.searchable = false ∧
      hiddenAuthor.primaryKey = "id" ∧ "Author" ≠ book.name ∧ "Author" ∉ book.memberNames ∧
      (Compiler.mk closedLibrary {}).resolve book
          (Filter.leafNode ["Book", "Author"] "=" (.int 7)) =
        .ok (.leaf (.compare (some ⟨"Book", editor⟩) "Author" "id" .eq (.single (.integer 7)))) ∧
      (Compiler.mk closedLibrary {}).resolve book
          (Filter.leafNode ["Author", "id"] "=" (.int 7)) =
        .error (.unknownEntity "Author" (Filter.leafNode ["Author", "id"] "=" (.int 7))) :=
  ⟨by rfl, by rfl, ⟨List.mem_cons_self, .inl rfl⟩, rfl, rfl, by decide, by decide, by rfl, by rfl⟩

end FieldSearch
