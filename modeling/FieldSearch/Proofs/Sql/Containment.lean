import FieldSearch.Proofs.Sql.Lexing
import FieldSearch.Proofs.Sql.Shape

/-!
# What stands in a statement

The text of a statement holds nothing but keywords, punctuation, placeholders, row names and, in
quotes, names of its schema. No operand leaves a trace in it but for its number.
-/

namespace FieldSearch

def JoinKey.names : JoinKey → List String
  | foreignKey column => [column]
  | reverse column => [column]
  | association table sourceColumn targetColumn => [table, sourceColumn, targetColumn]

/-- The names of the tables, attributes and join columns of a schema. -/
def Registry.names (registry : Registry) : List String :=
  registry.entities.flatMap fun e =>
    e.table :: (e.attributes.map (·.name) ++ e.relations.flatMap (·.join.names))

namespace Sql

def keywords : List String :=
  ["SELECT", "COUNT", "FROM", "AS", "JOIN", "ON", "WHERE", "EXISTS", "NOT", "AND", "OR", "IS",
    "NULL", "IN", "LIKE", "REGEXP", "ORDER", "BY", "COLLATE", "NOCASE", "ASC", "DESC", "LIMIT",
    "OFFSET"]

def literals : List String := ["0", "1"]

def punctuation : List String := ["(", ")", ",", ".", "*", "=", "<>", "<", "<=", ">", ">="]

/-- A token that may stand in a statement on a schema with these names. -/
inductive Token.Allowed (names : List String) : Token → Prop
  | keyword {text : String} : text ∈ keywords → Allowed names (.word text)
  | literal {text : String} : text ∈ literals → Allowed names (.word text)
  | symbol {text : String} : text ∈ punctuation → Allowed names (.symbol text)
  | placeholder (n : Nat) : Allowed names (.placeholder n)
  | row (o : Occurrence) : Allowed names (.word o.name)
  | link (o : Occurrence) : Allowed names (.word (o.name ++ "_link"))
  | name {name : String} : name ∈ names → Allowed names (.quoted name)

def Contained (names : List String) (ts : List Token) : Prop := ∀ t ∈ ts, t.Allowed names

def Token.isFixed : Token → Bool
  | word text => keywords.contains text || literals.contains text
  | symbol text => punctuation.contains text
  | placeholder _ => true
  | quoted _ => false

section Contained

variable {names : List String}

theorem contained_fixed {ts : List Token} (h : ts.all Token.isFixed = true) :
    Contained names ts := by
  intro t ht
  have ht := List.all_eq_true.mp h t ht
  cases t with
  | word text =>
    simp only [Token.isFixed, Bool.or_eq_true, List.contains_iff_mem] at ht
    exact ht.elim .keyword .literal
  | symbol text => exact .symbol (List.contains_iff_mem.mp ht)
  | placeholder n => exact .placeholder n
  | quoted name => cases ht

@[simp]
theorem contained_append {ts us : List Token} :
    Contained names (ts ++ us) ↔ Contained names ts ∧ Contained names us :=
  List.forall_mem_append

@[simp]
theorem contained_cons {t : Token} {ts : List Token} :
    Contained names (t :: ts) ↔ t.Allowed names ∧ Contained names ts :=
  List.forall_mem_cons

theorem contained_list {separator : Token} {parts : List (List Token)}
    (hsep : separator.isFixed = true) (h : ∀ part ∈ parts, Contained names part) :
    Contained names (listTokens separator parts) := by
  induction parts with
  | nil => exact contained_fixed rfl
  | cons part rest ih =>
    rw [List.forall_mem_cons] at h
    cases rest with
    | nil => simpa [listTokens] using h.1
    | cons next others =>
      have hone : Contained names [separator] := contained_fixed (by simp [hsep])
      rw [listTokens_cons_cons, contained_append, contained_cons]
      exact ⟨h.1, hone separator List.mem_cons_self, ih h.2⟩

theorem RowName.allowed (r : RowName) : (Token.word r.text).Allowed names := by
  cases r with
  | row o => exact .row o
  | link o => exact .link o

theorem ColumnName.contained {c : ColumnName} (h : c.column ∈ names) :
    Contained names c.tokens := by
  simp only [tokens, contained_cons]
  exact ⟨c.row.allowed, .symbol (by decide), .name h, contained_fixed rfl⟩

theorem TableRef.contained {t : TableRef} (h : t.table ∈ names) : Contained names t.tokens := by
  simp only [tokens, contained_cons]
  exact ⟨.name h, .keyword (by decide), t.row.allowed, contained_fixed rfl⟩

/-- The names of tables and columns that related rows are found by. -/
def Related.identifiers (r : Related) : List String :=
  [r.source.table, r.inner.column, r.outer.column] ++
    (r.join.map fun j => [j.source.table, j.left.column, j.right.column]).getD []

theorem Related.contained {r : Related} (h : ∀ name ∈ r.identifiers, name ∈ names) :
    Contained names r.tokens := by
  obtain ⟨source, join, inner, outer⟩ := r
  simp only [identifiers, List.cons_append, List.nil_append, List.forall_mem_cons] at h
  obtain ⟨hsource, hinner, houter, hjoin⟩ := h
  have hrows : Contained names ((join.map Join.tokens).getD []) := by
    cases join with
    | none => exact contained_fixed rfl
    | some j =>
      simp only [Option.map_some, Option.getD_some, List.forall_mem_cons] at hjoin ⊢
      obtain ⟨htable, hleft, hright, -⟩ := hjoin
      simp only [Join.tokens, contained_append, and_assoc]
      exact ⟨contained_fixed rfl, TableRef.contained htable, contained_fixed rfl,
        ColumnName.contained hleft, contained_fixed rfl, ColumnName.contained hright⟩
  simp only [tokens, contained_append, and_assoc]
  exact ⟨contained_fixed rfl, TableRef.contained hsource, hrows, contained_fixed rfl,
    ColumnName.contained hinner, contained_fixed rfl, ColumnName.contained houter⟩

end Contained

/-! ### The names of a rendered plan -/

section Names

variable {registry : Registry} {s : Scope}

theorem table_mem_names {e : Entity} (he : e ∈ registry.entities) : e.table ∈ registry.names :=
  List.mem_flatMap.mpr ⟨e, he, List.mem_cons_self⟩

theorem attribute_mem_names {e : Entity} (he : e ∈ registry.entities) {name : String}
    {a : Attribute} (ha : e.attribute? name = some a) : name ∈ registry.names := by
  obtain ⟨hmem, hname⟩ := Entity.attribute?_eq_some ha
  refine List.mem_flatMap.mpr ⟨e, he, List.mem_cons_of_mem _ (List.mem_append_left _ ?_)⟩
  exact List.mem_map.mpr ⟨a, hmem, hname⟩

theorem join_mem_names {e : Entity} (he : e ∈ registry.entities) {r : Relation}
    (hr : r ∈ e.relations) {name : String} (h : name ∈ r.join.names) : name ∈ registry.names := by
  refine List.mem_flatMap.mpr ⟨e, he, List.mem_cons_of_mem _ (List.mem_append_right _ ?_)⟩
  exact List.mem_flatMap.mpr ⟨r, hr, h⟩

theorem key_mem_names (consistent : registry.Consistent) {e : Entity}
    (he : e ∈ registry.entities) : e.primaryKey ∈ registry.names := by
  obtain ⟨a, ha⟩ := Option.isSome_iff_exists.mp (consistent.sound e he).key
  exact attribute_mem_names he ha

theorem entityNamed_mem {name : String} {e : Entity} (h : entityNamed registry name = .ok e) :
    e ∈ registry.entities :=
  (Registry.entity?_eq_some (entityNamed_eq_ok.mp h)).1

/-- A scope that takes everything from the schema. -/
structure Scope.Within (registry : Registry) (s : Scope) : Prop where
  root : s.root ∈ registry.entities
  source : ∀ {o b}, s.binding o = .ok b → b.source ∈ registry.entities
  relation : ∀ {o b}, s.binding o = .ok b → b.relation ∈ b.source.relations
  target : ∀ {o b}, s.binding o = .ok b → b.target ∈ registry.entities

theorem Binding.ofEntry_within {e : JoinEntry} {b : Binding} (h : ofEntry registry e = .ok b) :
    b.source ∈ registry.entities ∧ b.relation ∈ b.source.relations ∧
      b.target ∈ registry.entities := by
  rw [ofEntry] at h
  obtain ⟨source, hsource, h⟩ := bind_eq_ok.mp h
  split at h
  next => cases h
  next r hr =>
    obtain ⟨target, htarget, h⟩ := bind_eq_ok.mp h
    cases h
    exact ⟨entityNamed_mem hsource, (Entity.relation?_eq_some hr).1, entityNamed_mem htarget⟩

/-- What an occurrence is bound to is what an entry of the plan stands for. -/
theorem Scope.binding_ofEntry {plan : Plan} (h : ofPlan registry plan = .ok s) {o : Occurrence}
    {b : Binding} (hb : s.binding o = .ok b) :
    ∃ e ∈ plan.joins, Binding.ofEntry registry e = .ok b := by
  obtain ⟨root, -, h⟩ := bind_eq_ok.mp h
  obtain ⟨bindings, hbindings, h⟩ := bind_eq_ok.mp h
  cases h
  rw [binding] at hb
  split at hb
  next found hfound =>
    cases hb
    obtain ⟨pre, post, hsplit, -⟩ := List.lookup_eq_some_iff.mp hfound
    have hmem : (o, b) ∈ bindings := by
      rw [← List.mem_reverse, hsplit]
      simp
    obtain ⟨e, he, hpair⟩ := forall₂_mem_right (mapM_eq_ok.mp hbindings) hmem
    obtain ⟨b', hb', hpair⟩ := bind_eq_ok.mp hpair
    cases hpair
    exact ⟨e, he, hb'⟩
  next => cases hb

theorem Scope.ofPlan_within {plan : Plan} (h : ofPlan registry plan = .ok s) :
    s.Within registry := by
  have each : ∀ {o b}, s.binding o = .ok b → b.source ∈ registry.entities ∧
      b.relation ∈ b.source.relations ∧ b.target ∈ registry.entities := by
    intro o b hb
    obtain ⟨e, -, he⟩ := binding_ofEntry h hb
    exact Binding.ofEntry_within he
  exact ⟨(Registry.entity?_eq_some (ofPlan_root h)).1, fun hb => (each hb).1,
    fun hb => (each hb).2.1, fun hb => (each hb).2.2⟩

theorem Scope.Within.column (within : s.Within registry) {c : Column} {name : ColumnName}
    (h : s.column c = .ok name) : name.column ∈ registry.names := by
  obtain ⟨e, he, h⟩ := bind_eq_ok.mp h
  have hmem : e ∈ registry.entities := by
    rw [entity] at he
    split at he
    next => cases he; exact within.root
    next =>
      obtain ⟨b, hb, rfl⟩ := map_eq_ok.mp he
      exact within.target hb
  split at h
  next a ha => cases h; exact attribute_mem_names hmem ha
  next => cases h

theorem Scope.Within.related (within : s.Within registry) (consistent : registry.Consistent)
    {o : Occurrence} {b : Binding} (hb : s.binding o = .ok b) :
    ∀ name ∈ (b.related o).identifiers, name ∈ registry.names := by
  have htable := table_mem_names (within.target hb)
  have hsource := key_mem_names consistent (within.source hb)
  have htarget := key_mem_names consistent (within.target hb)
  have hjoin : ∀ name ∈ b.relation.join.names, name ∈ registry.names :=
    fun _ => join_mem_names (within.source hb) (within.relation hb)
  rw [Binding.related]
  cases hj : b.relation.join <;>
    simp only [hj, JoinKey.names, List.forall_mem_cons] at hjoin <;>
    simp [Related.identifiers, htable, hsource, htarget, hjoin]

theorem Scope.Within.presence (within : s.Within registry) (consistent : registry.Consistent)
    {o : Occurrence} {b : Binding} (hb : s.binding o = .ok b) (present : Bool) :
    Contained registry.names (b.presence o present).tokens := by
  have hrelated := Related.contained (within.related consistent hb)
  have hjoin : ∀ name ∈ b.relation.join.names, name ∈ registry.names :=
    fun _ => join_mem_names (within.source hb) (within.relation hb)
  have hexists : Contained registry.names (Condition.existsAny (b.related o)).tokens := by
    simp only [Condition.tokens, contained_append, and_assoc]
    exact ⟨contained_fixed rfl, hrelated, contained_fixed rfl⟩
  have hnone : Contained registry.names (Condition.existsNone (b.related o)).tokens := by
    simp only [Condition.tokens, contained_append, and_assoc]
    exact ⟨contained_fixed rfl, hrelated, contained_fixed rfl⟩
  cases hj : b.relation.join with
  | foreignKey column =>
    simp only [hj, JoinKey.names, List.forall_mem_cons] at hjoin
    have hcolumn : Contained registry.names (ColumnName.mk rootRow column).tokens :=
      ColumnName.contained hjoin.1
    cases present <;>
      simp only [Binding.presence, hj, Condition.tokens, contained_append] <;>
      exact ⟨hcolumn, contained_fixed rfl⟩
  | reverse column => cases present <;> simp only [Binding.presence, hj] <;> assumption
  | association table sourceColumn targetColumn =>
    cases present <;> simp only [Binding.presence, hj] <;> assumption

/-- Parts in parentheses hold what the parts hold. -/
theorem contained_parts {names : List String} {separator : Token} {next : Nat}
    {parts : List Predicate} {cs : List Condition} (hsep : separator.isFixed = true)
    (h : Numbered (fun _ _ c => Contained names c.tokens) next parts cs) :
    Contained names (listTokens separator (Condition.partsTokens cs)) := by
  refine contained_list hsep ?_
  simp only [Condition.partsTokens_eq, List.forall_mem_map, contained_append, and_assoc]
  exact h.right fun _ _ _ _ hc => ⟨contained_fixed rfl, hc, contained_fixed rfl⟩

theorem Scope.Within.condition (within : s.Within registry) (consistent : registry.Consistent)
    {p : Predicate} {next : Nat} {c : Condition} (h : condition s next p = .ok c) :
    Contained registry.names c.tokens := by
  refine condition_induct (motive := fun _ _ c => Contained registry.names c.tokens)
    ?compare ?isIn ?isNull ?isNotNull ?exist ?related ?not ?and ?or p h
  case compare =>
    intro next column comparison v name hname
    refine contained_append.mpr
      ⟨ColumnName.contained (within.column hname), contained_fixed ?_⟩
    cases comparison <;> rfl
  case isIn =>
    intro next column vs name hname
    cases vs with
    | nil => exact contained_fixed rfl
    | cons v rest =>
      simp only [membership, List.length_cons, List.range'_succ, Condition.tokens,
        contained_append, and_assoc]
      refine ⟨ColumnName.contained (within.column hname), contained_fixed rfl,
        contained_list rfl ?_, contained_fixed rfl⟩
      rw [List.forall_mem_map]
      exact fun n _ => contained_fixed rfl
  case isNull =>
    intro next column name hname
    exact contained_append.mpr
      ⟨ColumnName.contained (within.column hname), contained_fixed rfl⟩
  case isNotNull =>
    intro next column name hname
    exact contained_append.mpr
      ⟨ColumnName.contained (within.column hname), contained_fixed rfl⟩
  case exist =>
    intro next o inner b c hb hc
    simp only [Condition.tokens, contained_append, and_assoc]
    exact ⟨contained_fixed rfl, Related.contained (within.related consistent hb),
      contained_fixed rfl, hc, contained_fixed rfl⟩
  case related =>
    intro next o present b hb
    exact within.presence consistent hb present
  case not =>
    intro next inner c hc
    simp only [Condition.tokens, contained_append, and_assoc]
    exact ⟨contained_fixed rfl, hc, contained_fixed rfl⟩
  case and =>
    intro next parts cs hcs
    cases cs with
    | nil => exact contained_fixed rfl
    | cons c rest => exact contained_parts rfl hcs
  case or =>
    intro next parts cs hcs
    cases cs with
    | nil => exact contained_fixed rfl
    | cons c rest => exact contained_parts rfl hcs

theorem OrderBy.contained {names : List String} {o : OrderBy} (h : o.column.column ∈ names) :
    Contained names o.tokens := by
  simp only [tokens, contained_append, and_assoc]
  refine ⟨ColumnName.contained h, ?_, contained_fixed (by cases o.direction <;> rfl)⟩
  cases o.caseInsensitive with
  | false => exact contained_fixed rfl
  | true => exact contained_fixed rfl

theorem Select.contained {names : List String} {q : Select}
    (output : Contained names q.output.tokens) (source : q.source.table ∈ names)
    (condition : Contained names q.condition.tokens)
    (order : ∀ o ∈ q.order, o.column.column ∈ names) : Contained names q.tokens := by
  have horder : Contained names (orderTokens q.order) := by
    cases hterms : q.order with
    | nil => exact contained_fixed rfl
    | cons o rest =>
      refine contained_append.mpr ⟨contained_fixed rfl, contained_list rfl ?_⟩
      rw [List.forall_mem_map]
      exact fun o ho => OrderBy.contained (order o (hterms ▸ ho))
  have hwindow : Contained names ((q.window.map Window.tokens).getD []) := by
    cases q.window with
    | none => exact contained_fixed rfl
    | some w => exact contained_fixed rfl
  simp only [tokens, contained_append, and_assoc]
  exact ⟨contained_fixed rfl, output, contained_fixed rfl, TableRef.contained source,
    contained_fixed rfl, condition, horder, hwindow⟩

theorem select_contained (consistent : registry.Consistent) {plan : Plan} {f : Fragment}
    (h : select registry plan = .ok f) : Contained registry.names f.select.tokens := by
  obtain ⟨s, c, order, hs, hc, horder, rfl⟩ := select_eq_ok.mp h
  have within := Scope.ofPlan_within hs
  refine Select.contained ?output ?source ?condition ?order
  case output => exact ColumnName.contained (key_mem_names consistent within.root)
  case source => exact table_mem_names within.root
  case condition => exact within.condition consistent hc
  case order =>
    intro o ho
    obtain ⟨t, -, ht⟩ := forall₂_mem_right (mapM_eq_ok.mp horder) ho
    obtain ⟨name, hname, ht⟩ := bind_eq_ok.mp ht
    cases ht
    exact within.column hname

theorem count_contained (consistent : registry.Consistent) {plan : Plan} {f : Fragment}
    (h : count registry plan = .ok f) : Contained registry.names f.select.tokens := by
  obtain ⟨s, c, hs, hc, rfl⟩ := count_eq_ok.mp h
  have within := Scope.ofPlan_within hs
  exact Select.contained (contained_fixed rfl) (table_mem_names within.root)
    (within.condition consistent hc) (by simp)

end Names

/-- The statements of a plan hold nothing but fixed words and signs, placeholders, row names and
quoted names of the schema, and do not depend on the values of the operands. -/
theorem rendered_text_contained {entities : List Entity} {aliases : List EntityAlias}
    {registry : Registry} (built : Registry.build entities aliases = .ok registry) (plan : Plan) :
    (∀ f, select registry plan = .ok f ∨ count registry plan = .ok f →
      ∃ ts, tokens f.text = some ts ∧ ∀ t ∈ ts, t.Allowed registry.names) ∧
    ∀ other, plan.Alike other →
      (select registry plan).map Fragment.text = (select registry other).map Fragment.text ∧
      (count registry plan).map Fragment.text = (count registry other).map Fragment.text := by
  have consistent := Registry.build_consistent built
  refine ⟨fun f h => ⟨f.select.tokens, f.select.reads, ?_⟩, fun other alike =>
    ⟨alike.select_text_eq, alike.count_text_eq⟩⟩
  rcases h with h | h
  · exact select_contained consistent h
  · exact count_contained consistent h

/-- One name of the example holds a quote. Other numbers in the filter give the same text. -/
theorem sample_text_contained :
    ∃ f, select Example.schema Example.plan = .ok f ∧
      (∃ ts, tokens f.text = some ts ∧ ∀ t ∈ ts, t.Allowed Example.schema.names) ∧
      (select Example.schema Example.plan).map Fragment.text =
        (select Example.schema (Example.planWith 3 (-1) 0 250)).map Fragment.text := by
  have h := rendered_text_contained Example.schema_built Example.plan
  obtain ⟨f, hf⟩ : ∃ f, select Example.schema Example.plan = .ok f :=
    ⟨_, select_eq_ok.mpr ⟨_, _, _, rfl, rfl, rfl, rfl⟩⟩
  have alike : Example.plan.Alike (Example.planWith 3 (-1) 0 250) := ⟨rfl, rfl, rfl, rfl, rfl⟩
  exact ⟨f, hf, h.1 f (.inl hf), (h.2 _ alike).1⟩

end Sql

end FieldSearch
