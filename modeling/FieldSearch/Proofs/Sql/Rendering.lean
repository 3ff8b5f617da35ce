import FieldSearch.Proofs.Search.WellFormed
import FieldSearch.Proofs.Sql.Binding

/-!
# Rendering of well-formed plans

A well-formed plan names only what its schema has, so both of its statements can be rendered.
-/

namespace FieldSearch.Sql

variable {registry : Registry} {root : Entity} {joins : List JoinEntry}

/-- Pairs with distinct keys are found by their keys. -/
theorem lookup_of_mem {α β : Type} [BEq α] [LawfulBEq α] {pairs : List (α × β)} {a : α} {b : β}
    (distinct : (pairs.map (·.1)).Nodup) (h : (a, b) ∈ pairs) : pairs.lookup a = some b := by
  induction pairs with
  | nil => cases h
  | cons pair rest ih =>
    obtain ⟨key, value⟩ := pair
    rw [List.map_cons, List.nodup_cons] at distinct
    rcases List.mem_cons.mp h with heq | h
    · cases heq
      simp
    · have hne : (a == key) = false := by
        rw [beq_eq_false_iff_ne]
        exact fun heq => distinct.1 (List.mem_map.mpr ⟨(a, b), h, heq⟩)
      rw [List.lookup_cons, hne]
      exact ih distinct.2 h

theorem entityNamed_eq_ok {name : String} {e : Entity} :
    entityNamed registry name = .ok e ↔ registry.entity? name = some e := by
  rw [entityNamed]
  split
  next h => simp [h]
  next h => simp [h]

theorem Scope.column_eq {s : Scope} {c : Column} {name : ColumnName} (h : s.column c = .ok name) :
    name = ⟨.row c.occurrence, c.name⟩ := by
  obtain ⟨e, -, h⟩ := bind_eq_ok.mp h
  split at h
  · cases h
    rfl
  · cases h

theorem Scope.ofPlan_root {plan : Plan} {s : Scope} (h : Scope.ofPlan registry plan = .ok s) :
    registry.entity? plan.root = some s.root := by
  obtain ⟨root, hroot, h⟩ := bind_eq_ok.mp h
  obtain ⟨bindings, -, h⟩ := bind_eq_ok.mp h
  cases h
  exact entityNamed_eq_ok.mp hroot

/-- The names of a scope stand for what the joins of a search of the root say. -/
structure Scope.Fits (registry : Registry) (root : Entity) (joins : List JoinEntry) (s : Scope) :
    Prop where
  start : s.root = root
  binding : ∀ e ∈ joins, ∃ r target, root.relation? e.relation = some r ∧ r.target = e.target ∧
    registry.entity? e.target = some target ∧ s.binding e.occurrence = .ok ⟨root, r, target⟩

theorem Binding.ofEntry_eq_ok {e : JoinEntry} (hroot : registry.entity? root.name = some root)
    (wf : e.WellFormed registry root) :
    ∃ r target, root.relation? e.relation = some r ∧ r.target = e.target ∧
      registry.entity? e.target = some target ∧
      Binding.ofEntry registry e = .ok ⟨root, r, target⟩ := by
  obtain ⟨r, hr, htarget, -⟩ := wf.relation
  obtain ⟨target, ht⟩ := Option.isSome_iff_exists.mp wf.target
  have hsource : entityNamed registry e.source = .ok root := by
    rw [wf.source, entityNamed_eq_ok]
    exact hroot
  have hnamed : entityNamed registry r.target = .ok target := by
    rw [entityNamed_eq_ok, ← htarget]
    exact ht
  refine ⟨r, target, hr, htarget.symm, ht, ?_⟩
  simp only [ofEntry, hsource, hr, hnamed, bind, Except.bind, pure, Except.pure]

/-- The names of a well-formed plan stand for something. -/
theorem Scope.ofPlan_eq_ok {plan : Plan} (wf : plan.WellFormed registry root) :
    ∃ s, Scope.ofPlan registry plan = .ok s ∧ s.Fits registry root plan.joins := by
  obtain ⟨hentity, -⟩ := Registry.searchable?_eq_some wf.start
  have hname := (Registry.entity?_eq_some hentity).2
  have hroot : registry.entity? root.name = some root := hname ▸ hentity
  have each : ∀ e ∈ plan.joins, ∃ r target, root.relation? e.relation = some r ∧
      r.target = e.target ∧ registry.entity? e.target = some target ∧
      (do pure (e.occurrence, ← Binding.ofEntry registry e) : Except RenderError _) =
        .ok (e.occurrence, ⟨root, r, target⟩) := by
    intro e he
    obtain ⟨r, target, hr, htr, ht, hb⟩ := Binding.ofEntry_eq_ok hroot (wf.joins e he)
    exact ⟨r, target, hr, htr, ht, by rw [hb]; rfl⟩
  obtain ⟨bindings, hbs⟩ := exists_mapM_eq_ok fun e he =>
    let ⟨r, target, _, _, _, h⟩ := each e he
    ⟨_, h⟩
  have pairs := mapM_eq_ok.mp hbs
  have hkeys : bindings.map (·.1) = plan.joins.map (·.occurrence) := by
    rw [← List.forall₂_eq_eq_eq, List.forall₂_map_left_iff, List.forall₂_map_right_iff]
    refine pairs.flip.imp fun pair e h => ?_
    obtain ⟨b, -, hpair⟩ := bind_eq_ok.mp h
    cases hpair
    rfl
  refine ⟨⟨root, bindings⟩, ?_, rfl, fun e he => ?_⟩
  · rw [Scope.ofPlan, entityNamed_eq_ok.mpr hentity]
    exact bind_eq_ok.mpr ⟨root, rfl, bind_eq_ok.mpr ⟨bindings, hbs, rfl⟩⟩
  · obtain ⟨r, target, hr, htr, ht, hb⟩ := each e he
    obtain ⟨pair, hmem, hpair⟩ := forall₂_mem_left pairs he
    cases hb.symm.trans hpair
    have hlookup : bindings.reverse.lookup e.occurrence = some ⟨root, r, target⟩ := by
      refine lookup_of_mem ?_ (List.mem_reverse.mpr hmem)
      rw [List.map_reverse, List.nodup_reverse, hkeys]
      exact wf.distinct
    exact ⟨r, target, hr, htr, ht, by simp only [Scope.binding, hlookup]⟩

variable {s : Scope} {inside : Option Occurrence}

/-- The binding of an occurrence of the joins. -/
theorem Scope.Fits.occurrence (fits : s.Fits registry root joins) {o : Occurrence}
    (ho : o ∈ joins.map (·.occurrence)) :
    ∃ r target, r ∈ root.relations ∧ registry.entity? r.target = some target ∧
      s.binding o = .ok ⟨root, r, target⟩ := by
  obtain ⟨e, he, rfl⟩ := List.mem_map.mp ho
  obtain ⟨r, target, hr, htr, ht, hb⟩ := fits.binding e he
  exact ⟨r, target, (Entity.relation?_eq_some hr).1, htr ▸ ht, hb⟩

/-- The entity and the relation that a binding names belong to the schema. -/
structure Binding.Fits (registry : Registry) (b : Binding) : Prop where
  source : b.source ∈ registry.entities
  relation : b.relation ∈ b.source.relations
  target : registry.entity? b.relation.target = some b.target

theorem Scope.Fits.binding_fits (fits : s.Fits registry root joins)
    (hroot : root ∈ registry.entities) {o : Occurrence} (ho : o ∈ joins.map (·.occurrence))
    {b : Binding} (hb : s.binding o = .ok b) : b.Fits registry ∧ b.source = root := by
  obtain ⟨r, target, hr, ht, hbinding⟩ := fits.occurrence ho
  cases hb.symm.trans hbinding
  exact ⟨⟨hroot, hr, ht⟩, rfl⟩

theorem Scope.Fits.column (fits : s.Fits registry root joins)
    (apart : ∀ e ∈ joins, e.occurrence ≠ .root) {c : Column} {a : Attribute}
    (names : c.Names registry root joins inside a) :
    s.column c = .ok ⟨.row c.occurrence, c.name⟩ := by
  cases names with
  | root ho ha =>
    simp only [Scope.column, Scope.entity, ho, Occurrence.isRoot, beq_self_eq_true, if_true,
      fits.start, ha, bind, Except.bind, pure, Except.pure]
  | @joined e target hin he ho ht ha =>
    obtain ⟨r, target', hr, htr, ht', hb⟩ := fits.binding e he
    have hnot : e.occurrence.isRoot = false := by
      simpa [Occurrence.isRoot] using apart e he
    cases ht.symm.trans ht'
    simp only [Scope.column, Scope.entity, ← ho, hnot, Bool.false_eq_true, if_false, hb, ha,
      Functor.map, Except.map, bind, Except.bind, pure, Except.pure]

/-- The entity to whose rows an occurrence is bound, inside the condition on one or not. -/
inductive Scope.StandsFor (s : Scope) (inside : Option Occurrence) : Occurrence → Entity → Prop
  | root : StandsFor s inside .root s.root
  | joined {o : Occurrence} {b : Binding} : inside = some o → s.binding o = .ok b →
      StandsFor s inside o b.target

/-- The entity that has the attribute which a column names. -/
theorem Scope.Fits.entity (fits : s.Fits registry root joins) (hroot : root ∈ registry.entities)
    {c : Column} {a : Attribute} (names : c.Names registry root joins inside a) :
    ∃ e ∈ registry.entities, s.StandsFor inside c.occurrence e ∧ a ∈ e.attributes ∧
      a.name = c.name := by
  cases names with
  | root ho ha =>
    refine ⟨root, hroot, ?_, Entity.attribute?_eq_some ha⟩
    rw [ho, ← fits.start]
    exact .root
  | @joined e target hin he ho ht ha =>
    obtain ⟨r, target', -, -, ht', hb⟩ := fits.binding e he
    cases ht.symm.trans ht'
    exact ⟨target, (Registry.entity?_eq_some ht).1, .joined hin (ho ▸ hb),
      Entity.attribute?_eq_some ha⟩

/-- A well-formed predicate can be rendered, whatever the number of its first operand. -/
theorem condition_eq_ok (fits : s.Fits registry root joins)
    (apart : ∀ e ∈ joins, e.occurrence ≠ .root) {p : Predicate}
    (wf : p.WellFormed registry root joins inside) (next : Nat) :
    ∃ c, condition s next p = .ok c := by
  have all : ∀ {parts : List Predicate},
      (∀ part ∈ parts, ∀ next, ∃ c, condition s next part = .ok c) →
      ∀ next, ∃ cs, conditions s next parts = .ok cs := by
    intro parts each
    induction parts with
    | nil => exact fun _ => ⟨[], rfl⟩
    | cons part rest ih =>
      intro next
      obtain ⟨c, hc⟩ := each part List.mem_cons_self next
      obtain ⟨cs, hcs⟩ :=
        ih (fun q hq => each q (List.mem_cons_of_mem part hq)) (next + part.operands.length)
      exact ⟨c :: cs, by simp only [conditions, hc, hcs, bind, Except.bind, pure, Except.pure]⟩
  induction wf generalizing next with
  | compare names => exact ⟨_, by rw [condition, fits.column apart names]; rfl⟩
  | isIn names => exact ⟨_, by rw [condition, fits.column apart names]; rfl⟩
  | isNull names => exact ⟨_, by rw [condition, fits.column apart names]; rfl⟩
  | isNotNull names => exact ⟨_, by rw [condition, fits.column apart names]; rfl⟩
  | exist ho _ ih =>
    obtain ⟨c, hc⟩ := ih next
    obtain ⟨r, target, -, -, hb⟩ := fits.occurrence ho
    exact ⟨_, by rw [condition, hc, hb]; rfl⟩
  | related present ho =>
    obtain ⟨r, target, -, -, hb⟩ := fits.occurrence ho
    exact ⟨_, by rw [condition, hb]; rfl⟩
  | not _ ih =>
    obtain ⟨c, hc⟩ := ih next
    exact ⟨_, by rw [condition, hc]; rfl⟩
  | and _ _ ih =>
    obtain ⟨cs, hcs⟩ := all ih next
    exact ⟨_, by rw [condition, hcs]; rfl⟩
  | or _ _ ih =>
    obtain ⟨cs, hcs⟩ := all ih next
    exact ⟨_, by rw [condition, hcs]; rfl⟩

/-- Parts side by side with what they are rendered to, each with the number of its first operand. -/
inductive Numbered (motive : Nat → Predicate → Condition → Prop) :
    Nat → List Predicate → List Condition → Prop
  | nil {next : Nat} : Numbered motive next [] []
  | cons {next : Nat} {part : Predicate} {rest : List Predicate} {c : Condition}
      {cs : List Condition} : motive next part c →
      Numbered motive (next + part.operands.length) rest cs →
      Numbered motive next (part :: rest) (c :: cs)

/-- What holds of all that the parts are rendered to. -/
theorem Numbered.right {motive : Nat → Predicate → Condition → Prop} {P : Condition → Prop}
    {next : Nat} {parts : List Predicate} {cs : List Condition} (h : Numbered motive next parts cs)
    (each : ∀ part ∈ parts, ∀ next c, motive next part c → P c) : ∀ c ∈ cs, P c := by
  induction h with
  | nil => simp
  | cons hc _ ih =>
    rw [List.forall_mem_cons] at each ⊢
    exact ⟨each.1 _ _ hc, ih each.2⟩

theorem Numbered.imp {motive motive' : Nat → Predicate → Condition → Prop} {next : Nat}
    {parts : List Predicate} {cs : List Condition} (h : Numbered motive next parts cs)
    (each : ∀ part ∈ parts, ∀ next c, motive next part c → motive' next part c) :
    Numbered motive' next parts cs := by
  induction h with
  | nil => exact .nil
  | cons hc _ ih =>
    rw [List.forall_mem_cons] at each
    exact .cons (each.1 _ _ hc) (ih each.2)

/-- Parts that are rendered one after another are rendered each from the number it is up to. -/
theorem conditions_numbered {next : Nat} {parts : List Predicate} {cs : List Condition}
    (h : conditions s next parts = .ok cs) :
    Numbered (fun next p c => condition s next p = .ok c) next parts cs := by
  induction parts generalizing next cs with
  | nil =>
    cases h
    exact .nil
  | cons part rest ih =>
    obtain ⟨first, hfirst, h⟩ := bind_eq_ok.mp h
    obtain ⟨others, hothers, h⟩ := bind_eq_ok.mp h
    cases h
    exact .cons hfirst (ih hothers)

/-- Induction over a predicate and the condition that it is rendered to. -/
theorem condition_induct {motive : Nat → Predicate → Condition → Prop}
    (compare : ∀ next c comparison v name, s.column c = .ok name →
      motive next (.compare c comparison v) (.compare name comparison next))
    (isIn : ∀ next c vs name, s.column c = .ok name →
      motive next (.isIn c vs) (membership name (List.range' next vs.length)))
    (isNull : ∀ next c name, s.column c = .ok name → motive next (.isNull c) (.isNull name))
    (isNotNull : ∀ next c name, s.column c = .ok name →
      motive next (.isNotNull c) (.isNotNull name))
    (exist : ∀ next o inner b c, s.binding o = .ok b → motive next inner c →
      motive next (.exist o inner) (.existsWith (b.related o) c))
    (related : ∀ next o present b, s.binding o = .ok b →
      motive next (.related o present) (b.presence o present))
    (not : ∀ next inner c, motive next inner c → motive next (.not inner) (.not c))
    (and : ∀ next parts cs, Numbered motive next parts cs → motive next (.and parts) (.and cs))
    (or : ∀ next parts cs, Numbered motive next parts cs → motive next (.or parts) (.or cs))
    (p : Predicate) {next : Nat} {c : Condition} (h : condition s next p = .ok c) :
    motive next p c := by
  have all : ∀ {parts : List Predicate},
      (∀ part ∈ parts, ∀ {next c}, condition s next part = .ok c → motive next part c) →
      ∀ {next cs}, conditions s next parts = .ok cs → Numbered motive next parts cs :=
    fun each _ _ h => (conditions_numbered h).imp fun part hpart _ _ => each part hpart
  induction p using Predicate.induct generalizing next c with
  | compare column comparison v =>
    obtain ⟨name, hname, h⟩ := bind_eq_ok.mp h
    cases h
    exact compare next column comparison v name hname
  | isIn column vs =>
    obtain ⟨name, hname, h⟩ := bind_eq_ok.mp h
    cases h
    exact isIn next column vs name hname
  | isNull column =>
    obtain ⟨name, hname, h⟩ := bind_eq_ok.mp h
    cases h
    exact isNull next column name hname
  | isNotNull column =>
    obtain ⟨name, hname, h⟩ := bind_eq_ok.mp h
    cases h
    exact isNotNull next column name hname
  | exist o inner ih =>
    obtain ⟨inside, hinside, h⟩ := bind_eq_ok.mp h
    obtain ⟨b, hb, h⟩ := bind_eq_ok.mp h
    cases h
    exact exist next o inner b inside hb (ih hinside)
  | related o present =>
    obtain ⟨b, hb, h⟩ := bind_eq_ok.mp h
    cases h
    exact related next o present b hb
  | not inner ih =>
    obtain ⟨inside, hinside, h⟩ := bind_eq_ok.mp h
    cases h
    exact not next inner inside (ih hinside)
  | and parts ih =>
    obtain ⟨cs, hcs, h⟩ := bind_eq_ok.mp h
    cases h
    exact and next parts cs (all ih hcs)
  | or parts ih =>
    obtain ⟨cs, hcs, h⟩ := bind_eq_ok.mp h
    cases h
    exact or next parts cs (all ih hcs)

theorem orderTerms_eq_ok (fits : s.Fits registry root joins) {terms : List OrderTerm}
    (order : ∀ t ∈ terms,
      t.column.occurrence = .root ∧ (root.attribute? t.column.name).isSome) :
    terms.mapM s.orderTerm = .ok (terms.map fun t =>
      ⟨⟨rootRow, t.column.name⟩, t.caseInsensitive, t.direction⟩) := by
  rw [mapM_eq_ok, List.forall₂_map_right_iff, List.forall₂_same]
  intro t ht
  obtain ⟨ho, ha⟩ := order t ht
  obtain ⟨a, ha⟩ := Option.isSome_iff_exists.mp ha
  simp only [Scope.orderTerm, Scope.column, Scope.entity, ho, Occurrence.isRoot, beq_self_eq_true,
    if_true, fits.start, ha, bind, Except.bind, pure, Except.pure, rootRow]

/-- The statement of a plan, with its condition. -/
def selectStatement (root : Entity) (plan : Plan) (condition : Condition) : Fragment :=
  let operands := operandValues plan
  let order := plan.orderBy.map fun t =>
    ⟨⟨rootRow, t.column.name⟩, t.caseInsensitive, t.direction⟩
  let window := plan.page.map fun _ => ⟨operands.length + 1, operands.length + 2⟩
  ⟨⟨.column ⟨rootRow, root.primaryKey⟩, ⟨root.table, rootRow⟩, condition, order, window⟩,
    operands ++ windowValues plan.page⟩

def countStatement (root : Entity) (plan : Plan) (condition : Condition) : Fragment :=
  ⟨⟨.count, ⟨root.table, rootRow⟩, condition, [], none⟩, operandValues plan⟩

/-- Both statements of a well-formed plan are rendered, on one condition. -/
theorem wellFormed_rendered {plan : Plan} (wf : plan.WellFormed registry root) :
    ∃ s c, Scope.ofPlan registry plan = .ok s ∧ s.Fits registry root plan.joins ∧
      condition s 1 plan.predicate = .ok c ∧
      select registry plan = .ok (selectStatement root plan c) ∧
      count registry plan = .ok (countStatement root plan c) := by
  obtain ⟨s, hs, fits⟩ := Scope.ofPlan_eq_ok wf
  obtain ⟨c, hc⟩ := condition_eq_ok fits wf.apart wf.predicate 1
  have horder := orderTerms_eq_ok fits wf.order
  refine ⟨s, c, hs, fits, hc, ?_, ?_⟩
  · refine select_eq_ok.mpr ⟨s, c, _, hs, hc, horder, ?_⟩
    rw [statementOf, fits.start]
    rfl
  · refine count_eq_ok.mpr ⟨s, c, hs, hc, ?_⟩
    rw [fits.start]
    rfl

/-! ### An example -/

namespace Example

def author : Entity :=
  ⟨"Author", "author", "id", true, [⟨"id", .integer⟩, ⟨"born", .integer⟩],
    [.toMany "books" "Book" "author_id"]⟩

def book : Entity :=
  ⟨"Book", "book", "id", true, [⟨"id", .integer⟩, ⟨"title", .string⟩, ⟨"pages", .integer⟩],
    [.toOne "author" "Author" "author_id",
      .manyToMany "tags" "Tag" "book\"tag" "book_id" "tag_id"]⟩

def tag : Entity := ⟨"Tag", "tag", "id", true, [⟨"id", .integer⟩, ⟨"rank", .integer⟩], []⟩

def schema : Registry := ⟨[author, book, tag], []⟩

theorem schema_built : Registry.build [tag, book, author] [] = .ok schema := by rfl

def config : Config := { normalizeStrings := false }

/-- Books with a tag of rank 1 and one of rank 2, by no author or by one who was not born after
1900, of 100 pages or of an unknown number. -/
def filter : Json :=
  .array [.string "and", .array [
    .array [.string "Book", .string "tags", .string "rank", .string "=", .int 1],
    .array [.string "Book", .string "tags", .string "rank", .string "=", .int 2],
    .array [.string "or", .array [
      .array [.string "Book", .string "author", .string "=", .null],
      .array [.string "not",
        .array [.string "Book", .string "author", .string "born", .string ">", .int 1900]]]],
    .array [.string "Book", .string "pages", .string "in", .array [.int 100, .null]]]]

/-- The plan for the filter, with these numbers in it. -/
def planWith (first second year pages : Int64) : Plan where
  root := "Book"
  predicate := .and [
    .exist ⟨1⟩ (.compare ⟨⟨1⟩, "rank"⟩ .eq (.integer first)),
    .exist ⟨1⟩ (.compare ⟨⟨1⟩, "rank"⟩ .eq (.integer second)),
    .or [.related ⟨2⟩ false, .not (.exist ⟨2⟩ (.compare ⟨⟨2⟩, "born"⟩ .gt (.integer year)))],
    .or [.isIn ⟨.root, "pages"⟩ [.integer pages], .isNull ⟨.root, "pages"⟩]]
  joins := [⟨⟨1⟩, "Book", "tags", "Tag", .toMany⟩, ⟨⟨2⟩, "Book", "author", "Author", .toOne⟩]
  orderBy := [⟨⟨.root, "id"⟩, .asc, false⟩]
  page := none

def plan : Plan := planWith 1 2 1900 100

theorem plan_compiled :
    (Compiler.mk schema config).compile "Book" filter .null none = .ok plan :=
  (Compiler.compile_eq ..).trans rfl

end Example

/-- Every compiled plan is well-formed, and both of its statements can be rendered. -/
theorem compiled_plan_renders {entities : List Entity} {aliases : List EntityAlias}
    (built : Registry.build entities aliases = .ok registry) {config : Config} {name : String}
    {filter orderBy : Json} {page : Option Page} {plan : Plan}
    (compiled : (Compiler.mk registry config).compile name filter orderBy page = .ok plan)
    (size : plan.joins.length < UInt32.size) :
    ∃ root, plan.WellFormed registry root ∧ (∃ f, select registry plan = .ok f) ∧
      ∃ f, count registry plan = .ok f := by
  obtain ⟨root, wf⟩ :=
    Compiler.compile_wellFormed (Registry.build_consistent built) compiled size
  obtain ⟨s, c, -, -, -, hselect, hcount⟩ := wellFormed_rendered wf
  exact ⟨root, wf, ⟨_, hselect⟩, _, hcount⟩

theorem sample_renders :
    ∃ root, Example.plan.WellFormed Example.schema root ∧
      (∃ f, select Example.schema Example.plan = .ok f) ∧
      ∃ f, count Example.schema Example.plan = .ok f :=
  compiled_plan_renders Example.schema_built Example.plan_compiled (by decide)

end FieldSearch.Sql
