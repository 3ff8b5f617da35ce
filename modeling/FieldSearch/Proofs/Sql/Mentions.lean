import FieldSearch.Proofs.Sql.Tables

/-!
# What statements name

A statement names tables, and columns of the rows that are in sight where they are named. Each table
that the statement of a plan names is one of the schema, and each column is declared in the table
whose row it is taken from.
-/

namespace FieldSearch.Sql

/-- A name in a statement. -/
inductive Mention where
  | table (name : String)
  /-- A column of a row of a table; there is none if no row of that name is in sight. -/
  | column (table : Option String) (name : String)
  deriving DecidableEq

namespace Mention

def name : Mention → String
  | table name => name
  | column _ name => name

/-- The tables have what the mention names. -/
def Declared (ts : List TableDef) : Mention → Prop
  | table name => ∃ t ∈ ts, t.name = name
  | column source name => ∃ t, source = some t ∧ Declares ts t name

@[simp]
theorem name_table (name : String) : (table name).name = name := rfl

@[simp]
theorem name_column (source : Option String) (name : String) : (column source name).name = name :=
  rfl

end Mention

/-- The table that a row is of; the rows in sight stand innermost first. -/
def tableOf? (rows : List TableRef) (row : RowName) : Option String :=
  (rows.find? (·.row == row)).map (·.table)

def ColumnName.mention (rows : List TableRef) (c : ColumnName) : Mention :=
  .column (tableOf? rows c.row) c.column

namespace Related

def rows (r : Related) : List TableRef := r.source :: (r.join.map (·.source)).toList

/-- What is named where related rows are sought, among the rows around them. -/
def mentions (rows : List TableRef) (r : Related) : List Mention :=
  let rows := r.rows ++ rows
  .table r.source.table ::
    ((r.join.map fun j =>
      [.table j.source.table, j.left.mention rows, j.right.mention rows]).getD [] ++
    [r.inner.mention rows, r.outer.mention rows])

end Related

namespace Condition

mutual

def mentions (rows : List TableRef) : Condition → List Mention
  | compare column _ _ => [column.mention rows]
  | isIn column _ => [column.mention rows]
  | isNull column => [column.mention rows]
  | isNotNull column => [column.mention rows]
  | existsWith related inner => related.mentions rows ++ mentions (related.rows ++ rows) inner
  | existsAny related => related.mentions rows
  | existsNone related => related.mentions rows
  | not inner => mentions rows inner
  | and parts => allMentions rows parts
  | or parts => allMentions rows parts

def allMentions (rows : List TableRef) : List Condition → List Mention
  | [] => []
  | part :: rest => mentions rows part ++ allMentions rows rest

end

theorem allMentions_eq (rows : List TableRef) (parts : List Condition) :
    allMentions rows parts = parts.flatMap (mentions rows) := by
  induction parts with
  | nil => rfl
  | cons part rest ih => rw [allMentions, ih, List.flatMap_cons]

end Condition

def Output.mentions (rows : List TableRef) : Output → List Mention
  | column name => [name.mention rows]
  | count => []

/-- What a statement names, from left to right. -/
def Select.mentions (q : Select) : List Mention :=
  q.output.mentions [q.source] ++ .table q.source.table :: q.condition.mentions [q.source] ++
    q.order.map (·.column.mention [q.source])

/-! ### The names in the text -/

namespace Token

/-- The name that stands in quotes. -/
def quoted? : Token → Option String
  | quoted name => some name
  | _ => none

@[simp]
theorem quoted?_quoted (name : String) : (quoted name).quoted? = some name := rfl

@[simp]
theorem quoted?_word (text : String) : (word text).quoted? = none := rfl

@[simp]
theorem quoted?_symbol (text : String) : (symbol text).quoted? = none := rfl

@[simp]
theorem quoted?_placeholder (n : Nat) : (placeholder n).quoted? = none := rfl

end Token

section Text

theorem Related.tokens_quoted (r : Related) (rows : List TableRef) :
    r.tokens.filterMap Token.quoted? = (r.mentions rows).map (·.name) := by
  obtain ⟨source, join, inner, outer⟩ := r
  cases join <;> rfl

theorem comparisonToken_quoted (c : Comparison) : (comparisonToken c).quoted? = none := by
  cases c <;> rfl

theorem Condition.partsTokens_quoted {separator : Token} (hsep : separator.quoted? = none)
    {parts : List Condition} {rows : List TableRef}
    (each : ∀ part ∈ parts, ∀ rows, part.tokens.filterMap Token.quoted? =
      (part.mentions rows).map (·.name)) :
    (listTokens separator (partsTokens parts)).filterMap Token.quoted? =
      (allMentions rows parts).map (·.name) := by
  rw [listTokens_filterMap hsep, partsTokens_eq, allMentions_eq, List.map_flatMap,
    List.flatMap_map]
  refine List.flatMap_congr fun part hpart => ?_
  simpa [List.filterMap_cons] using each part hpart rows

theorem Condition.tokens_quoted (c : Condition) (rows : List TableRef) :
    c.tokens.filterMap Token.quoted? = (c.mentions rows).map (·.name) := by
  induction c using Condition.induct generalizing rows with
  | compare column comparison n =>
    simp [tokens, mentions, List.filterMap_cons, ColumnName.tokens, ColumnName.mention,
      comparisonToken_quoted]
  | isIn column ns =>
    have numbers : (listTokens (.symbol ",") (ns.map fun n => [.placeholder n])).filterMap
        Token.quoted? = [] := by
      rw [listTokens_filterMap rfl]
      simp
    rw [tokens, List.filterMap_append, List.filterMap_append, numbers]
    rfl
  | isNull column => rfl
  | isNotNull column => rfl
  | existsWith related inner ih =>
    simp [tokens, mentions, List.filterMap_cons, related.tokens_quoted rows,
      ih (related.rows ++ rows)]
  | existsAny related =>
    simp [tokens, mentions, List.filterMap_cons, related.tokens_quoted rows]
  | existsNone related =>
    simp [tokens, mentions, List.filterMap_cons, related.tokens_quoted rows]
  | not inner ih => simp [tokens, mentions, List.filterMap_cons, ih rows]
  | and parts ih =>
    cases parts with
    | nil => rfl
    | cons part rest => exact partsTokens_quoted rfl ih
  | or parts ih =>
    cases parts with
    | nil => rfl
    | cons part rest => exact partsTokens_quoted rfl ih

theorem OrderBy.tokens_quoted (o : OrderBy) :
    o.tokens.filterMap Token.quoted? = [o.column.column] := by
  obtain ⟨column, insensitive, direction⟩ := o
  cases insensitive <;> cases direction <;> rfl

/-- The names in quotes in the text of a statement are those of its mentions. -/
theorem Select.tokens_quoted (q : Select) :
    q.tokens.filterMap Token.quoted? = q.mentions.map (·.name) := by
  have hcondition := q.condition.tokens_quoted [q.source]
  have horder : (orderTokens q.order).filterMap Token.quoted? =
      q.order.map (·.column.column) := by
    cases hterms : q.order with
    | nil => rfl
    | cons first rest =>
      rw [orderTokens, List.filterMap_append, listTokens_filterMap rfl, List.flatMap_map]
      · simp [List.filterMap_cons, OrderBy.tokens_quoted, List.map_eq_flatMap]
      · exact fun h => List.cons_ne_nil _ _ h
  have houtput : q.output.tokens.filterMap Token.quoted? =
      (q.output.mentions [q.source]).map (·.name) := by
    cases q.output <;> rfl
  have hwindow : ((q.window.map Window.tokens).getD []).filterMap Token.quoted? = [] := by
    cases q.window <;> rfl
  simp [tokens, mentions, List.filterMap_cons, hcondition, horder, houtput, hwindow,
    TableRef.tokens, ColumnName.mention]

end Text

/-! ### What is named is declared -/

section Declared

variable {registry : Registry} {root : Entity} {joins : List JoinEntry} {s : Scope}

theorem declared_table {ts : List TableDef} {table column : String}
    (h : Declares ts table column) : (Mention.table table).Declared ts := by
  obtain ⟨t, ht, hname, -⟩ := h
  exact ⟨t, ht, hname⟩

/-- The rows in sight are those of the tables of the entities that their occurrences stand for. -/
def InSight (s : Scope) (rows : List TableRef) (inside : Option Occurrence) : Prop :=
  ∀ o e, s.StandsFor inside o e → tableOf? rows (.row o) = some e.table

theorem tableOf?_rootRow {b : Binding} {o : Occurrence} (ho : o ≠ .root) (rows : List TableRef) :
    tableOf? ((b.related o).rows ++ rows) rootRow = tableOf? rows rootRow := by
  rw [Binding.related]
  cases b.relation.join <;>
    simp [Related.rows, tableOf?, rootRow, ho]

theorem tableOf?_target (b : Binding) (o : Occurrence) (rows : List TableRef) :
    tableOf? ((b.related o).rows ++ rows) (.row o) = some b.target.table := by
  rw [Binding.related]
  cases b.relation.join <;> simp [Related.rows, tableOf?]

theorem InSight.rootRow {rows : List TableRef} {inside : Option Occurrence}
    (sight : InSight s rows inside) : tableOf? rows rootRow = some s.root.table :=
  sight _ _ .root

/-- Within the rows of an occurrence, the target and the root are in sight. -/
theorem InSight.enter {rows : List TableRef} (sight : InSight s rows none) {o : Occurrence}
    (ho : o ≠ .root) {b : Binding} (hb : s.binding o = .ok b) :
    InSight s ((b.related o).rows ++ rows) (some o) := by
  intro o' e stands
  cases stands with
  | root => exact (tableOf?_rootRow ho rows).trans sight.rootRow
  | joined hin hb' =>
    cases hin
    cases hb.symm.trans hb'
    exact tableOf?_target b o rows

theorem related_declared (consistent : registry.Consistent) {b : Binding}
    (fits : b.Fits registry) {o : Occurrence} (ho : o ≠ .root) {rows : List TableRef}
    (source : tableOf? rows rootRow = some b.source.table) :
    ∀ m ∈ (b.related o).mentions rows, m.Declared (tables registry) := by
  have htarget := (Registry.entity?_eq_some fits.target).1
  have sourceKey := tables_declare_key fits.source consistent
  have targetKey := tables_declare_key htarget consistent
  have places := tables_declare_relation fits.source fits.relation fits.target
  have hroot := (tableOf?_rootRow (b := b) ho rows).trans source
  have hrow := tableOf?_target b o rows
  rw [Relation.places] at places
  rw [Binding.related] at hroot hrow ⊢
  cases hj : b.relation.join with
  | foreignKey column =>
    simp only [hj, List.forall_mem_singleton] at places hroot hrow
    simp only [Related.mentions, Option.map_none, Option.getD_none, List.nil_append,
      List.forall_mem_cons]
    exact ⟨declared_table targetKey, ⟨_, hrow, targetKey⟩, ⟨_, hroot, places⟩, by simp⟩
  | reverse column =>
    simp only [hj, List.forall_mem_singleton] at places hroot hrow
    simp only [Related.mentions, Option.map_none, Option.getD_none, List.nil_append,
      List.forall_mem_cons]
    exact ⟨declared_table targetKey, ⟨_, hrow, places⟩, ⟨_, hroot, sourceKey⟩, by simp⟩
  | association table sourceColumn targetColumn =>
    simp only [hj, List.forall_mem_cons] at places hroot hrow
    obtain ⟨hsource, hcolumn, -⟩ := places
    have hlink : tableOf? ((b.related o).rows ++ rows) (.link o) = some table := by
      simp [Binding.related, hj, Related.rows, tableOf?]
    rw [Binding.related] at hlink
    simp only [hj] at hlink
    simp only [Related.mentions, Option.map_some, Option.getD_some, List.cons_append,
      List.nil_append, List.forall_mem_cons]
    exact ⟨declared_table hsource, declared_table targetKey, ⟨_, hrow, targetKey⟩,
      ⟨_, hlink, hcolumn⟩, ⟨_, hlink, hsource⟩, ⟨_, hroot, sourceKey⟩, by simp⟩

theorem presence_declared (consistent : registry.Consistent) {b : Binding}
    (fits : b.Fits registry) {o : Occurrence} (ho : o ≠ .root) {rows : List TableRef}
    (source : tableOf? rows rootRow = some b.source.table) (present : Bool) :
    ∀ m ∈ (b.presence o present).mentions rows, m.Declared (tables registry) := by
  have related := related_declared consistent fits ho source
  have places := tables_declare_relation fits.source fits.relation fits.target
  rw [Relation.places] at places
  cases hj : b.relation.join with
  | foreignKey column =>
    simp only [hj, List.forall_mem_singleton] at places
    cases present <;>
      simp only [Binding.presence, hj, Condition.mentions, List.forall_mem_singleton] <;>
      exact ⟨_, source, places⟩
  | reverse column =>
    cases present <;> simpa only [Binding.presence, hj, Condition.mentions] using related
  | association table sourceColumn targetColumn =>
    cases present <;> simpa only [Binding.presence, hj, Condition.mentions] using related

theorem column_declared (hroot : root ∈ registry.entities) (fits : s.Fits registry root joins)
    {inside : Option Occurrence} {rows : List TableRef} (sight : InSight s rows inside)
    {c : Column} {a : Attribute} (names : c.Names registry root joins inside a)
    {name : ColumnName} (hname : s.column c = .ok name) :
    (name.mention rows).Declared (tables registry) := by
  obtain ⟨e, he, stands, ha, haname⟩ := fits.entity hroot names
  rw [Scope.column_eq hname]
  exact ⟨e.table, sight _ _ stands, haname ▸ tables_declare_attribute he ha⟩

theorem InSight.fits_binding (hroot : root ∈ registry.entities)
    (fits : s.Fits registry root joins) {inside : Option Occurrence} {rows : List TableRef}
    (sight : InSight s rows inside) {o : Occurrence} (ho : o ∈ joins.map (·.occurrence))
    {b : Binding} (hb : s.binding o = .ok b) :
    b.Fits registry ∧ tableOf? rows Sql.rootRow = some b.source.table := by
  obtain ⟨hfits, hsource⟩ := fits.binding_fits hroot ho hb
  refine ⟨hfits, ?_⟩
  rw [hsource, ← fits.start]
  exact sight.rootRow

/-- Wherever the predicate is well-formed and its rows are in sight, what the condition names is
declared. -/
def DeclaredInSight (registry : Registry) (root : Entity) (joins : List JoinEntry) (s : Scope)
    (p : Predicate) (c : Condition) : Prop :=
  ∀ inside rows, p.WellFormed registry root joins inside → InSight s rows inside →
    ∀ m ∈ c.mentions rows, m.Declared (tables registry)

theorem parts_declared {ps : List Predicate} {cs : List Condition} {next : Nat}
    (h : Numbered (fun _ => DeclaredInSight registry root joins s) next ps cs)
    {inside : Option Occurrence} (wf : ∀ p ∈ ps, p.WellFormed registry root joins inside)
    {rows : List TableRef} (sight : InSight s rows inside) :
    ∀ m ∈ Condition.allMentions rows cs, m.Declared (tables registry) := by
  rw [Condition.allMentions_eq]
  intro m hm
  obtain ⟨c, hc, hm⟩ := List.mem_flatMap.mp hm
  exact h.right (P := fun c => ∀ m ∈ c.mentions rows, m.Declared (tables registry))
    (fun p hp _ _ declared => declared inside rows (wf p hp) sight) c hc m hm

/-- What the condition of a well-formed predicate names is declared where it is looked up. -/
theorem condition_declared (consistent : registry.Consistent) (hroot : root ∈ registry.entities)
    (fits : s.Fits registry root joins) (apart : ∀ e ∈ joins, e.occurrence ≠ .root)
    {p : Predicate} {next : Nat} {c : Condition} (h : condition s next p = .ok c) :
    DeclaredInSight registry root joins s p c := by
  have occurrence {o : Occurrence} (ho : o ∈ joins.map (·.occurrence)) : o ≠ .root := by
    obtain ⟨e, he, rfl⟩ := List.mem_map.mp ho
    exact apart e he
  refine condition_induct (motive := fun _ => DeclaredInSight registry root joins s)
    ?compare ?isIn ?isNull ?isNotNull ?exist ?related ?not ?and ?or p h
  case compare =>
    intro next c comparison v name hname inside rows wf sight
    cases wf with
    | compare names =>
      exact List.forall_mem_singleton.mpr (column_declared hroot fits sight names hname)
  case isIn =>
    intro next c vs name hname inside rows wf sight
    cases wf with
    | isIn names =>
      cases vs with
      | nil => simp [membership, Condition.mentions, Condition.allMentions]
      | cons v rest =>
        exact List.forall_mem_singleton.mpr (column_declared hroot fits sight names hname)
  case isNull =>
    intro next c name hname inside rows wf sight
    cases wf with
    | isNull names =>
      exact List.forall_mem_singleton.mpr (column_declared hroot fits sight names hname)
  case isNotNull =>
    intro next c name hname inside rows wf sight
    cases wf with
    | isNotNull names =>
      exact List.forall_mem_singleton.mpr (column_declared hroot fits sight names hname)
  case exist =>
    intro next o inner b c hb ih inside rows wf sight
    cases wf with
    | exist ho wf =>
      obtain ⟨hfits, hrow⟩ := sight.fits_binding hroot fits ho hb
      exact List.forall_mem_append.mpr ⟨related_declared consistent hfits (occurrence ho) hrow,
        ih _ _ wf (sight.enter (occurrence ho) hb)⟩
  case related =>
    intro next o present b hb inside rows wf sight
    cases wf with
    | related _ ho =>
      obtain ⟨hfits, hrow⟩ := sight.fits_binding hroot fits ho hb
      exact presence_declared consistent hfits (occurrence ho) hrow present
  case not =>
    intro next inner c ih inside rows wf sight
    cases wf with
    | not wf => exact ih _ _ wf sight
  case and =>
    intro next ps cs h inside rows wf sight
    cases wf with
    | and _ wf => exact parts_declared h wf sight
  case or =>
    intro next ps cs h inside rows wf sight
    cases wf with
    | or _ wf => exact parts_declared h wf sight

end Declared

/-- The statement names tables and columns that are declared, and no others stand in its text. -/
structure Select.Covered (ts : List TableDef) (q : Select) : Prop where
  declared : ∀ m ∈ q.mentions, m.Declared ts
  named : ∃ read, Sql.tokens q.text = some read ∧
    read.filterMap Token.quoted? = q.mentions.map (·.name)

theorem Select.covered_of_declared {ts : List TableDef} {q : Select}
    (declared : ∀ m ∈ q.mentions, m.Declared ts) : q.Covered ts :=
  ⟨declared, q.tokens, q.reads, q.tokens_quoted⟩

theorem initial_inSight (s : Scope) : InSight s [⟨s.root.table, rootRow⟩] none := by
  intro o e stands
  cases stands with
  | root => simp [tableOf?, rootRow]
  | joined hin => cases hin

/-- Both statements of a well-formed plan find what they name in the tables of the schema. -/
theorem wellFormed_covered {registry : Registry} {root : Entity} (consistent : registry.Consistent)
    {plan : Plan} (wf : plan.WellFormed registry root) :
    ∃ f g, select registry plan = .ok f ∧ count registry plan = .ok g ∧
      f.select.Covered (tables registry) ∧ g.select.Covered (tables registry) := by
  obtain ⟨s, c, hs, fits, hc, hselect, hcount⟩ := wellFormed_rendered wf
  have hroot := wf.root_mem
  have hkey := tables_declare_key hroot consistent
  have hrow : tableOf? [⟨root.table, rootRow⟩] rootRow = some root.table := by
    simp [tableOf?, rootRow]
  have hcondition : ∀ m ∈ c.mentions [⟨root.table, rootRow⟩],
      m.Declared (tables registry) := by
    have sight := initial_inSight s
    rw [fits.start] at sight
    exact condition_declared consistent hroot fits wf.apart hc none _ wf.predicate sight
  have horder : ∀ t ∈ plan.orderBy,
      (ColumnName.mk rootRow t.column.name).mention [⟨root.table, rootRow⟩] |>.Declared
        (tables registry) := by
    intro t ht
    obtain ⟨-, ha⟩ := wf.order t ht
    obtain ⟨a, ha⟩ := Option.isSome_iff_exists.mp ha
    obtain ⟨hmem, hname⟩ := Entity.attribute?_eq_some ha
    exact ⟨root.table, hrow, hname ▸ tables_declare_attribute hroot hmem⟩
  refine ⟨_, _, hselect, hcount, Select.covered_of_declared ?_, Select.covered_of_declared ?_⟩
  · simp only [selectStatement, Select.mentions, Output.mentions, List.forall_mem_append,
      List.forall_mem_cons, List.forall_mem_map, List.map_map, Function.comp_apply]
    exact ⟨⟨⟨⟨_, hrow, hkey⟩, by simp⟩, declared_table hkey, hcondition⟩, horder⟩
  · simp only [countStatement, Select.mentions, Output.mentions, List.forall_mem_append,
      List.forall_mem_cons, List.map_nil]
    exact ⟨⟨by simp, declared_table hkey, hcondition⟩, by simp⟩

/-- What the tables of a schema are to the searches on it. -/
structure Covers (registry : Registry) : Prop where
  tablesOnce : ((tables registry).map (·.name)).Nodup
  columnsOnce : ∀ t ∈ tables registry, t.columns ≠ [] ∧ (t.columns.map (·.name)).Nodup
  /-- Attributes and columns that store relations are declared, and nothing else. -/
  stored : ∀ table column, Declares (tables registry) table column ↔
    Stores registry table column
  searched : ∀ {config : Config} {name : String} {filter orderBy : Json} {page : Option Page}
    {plan : Plan}, (Compiler.mk registry config).compile name filter orderBy page = .ok plan →
    plan.joins.length < UInt32.size →
    ∃ f g, select registry plan = .ok f ∧ count registry plan = .ok g ∧
      f.select.Covered (tables registry) ∧ g.select.Covered (tables registry)
  keys : ∀ e ∈ registry.entities,
    (∀ e' ∈ registry.entities, e'.table = e.table → e'.primaryKey = e.primaryKey) →
    ∀ t ∈ tables registry, t.name = e.table → t.marked = [e.primaryKey]
  types : ∀ t ∈ tables registry,
    (∀ e ∈ registry.entities, e.table = t.name → ∀ a ∈ e.attributes,
      ∀ e' ∈ registry.entities, e'.table = t.name → ∀ a' ∈ e'.attributes,
        a.name = a'.name → a.type = a'.type) →
    ∀ e ∈ registry.entities, e.table = t.name → ∀ a ∈ e.attributes,
      ⟨a.name, .ofScalar a.type⟩ ∈ t.columns

/-- The tables of every schema that is accepted cover the searches on it. -/
theorem built_tables_cover {entities : List Entity} {aliases : List EntityAlias}
    {registry : Registry} (built : Registry.build entities aliases = .ok registry) :
    Covers registry := by
  have consistent := Registry.build_consistent built
  constructor
  case tablesOnce => exact (tables_sorted registry).names_nodup
  case columnsOnce => exact fun t ht => ⟨columns_ne_nil consistent ht, columns_distinct ht⟩
  case stored => exact fun _ _ => declares_iff_stores
  case searched =>
    intro config name filter orderBy page plan compiled size
    obtain ⟨root, wf⟩ := Compiler.compile_wellFormed consistent compiled size
    exact wellFormed_covered consistent wf
  case keys => exact fun e he shared t ht => marked_of_shared_key consistent he shared ht
  case types => exact fun t ht agree e he htable a => attribute_column agree ht rfl he htable

/-- The search of the example names the linking table, both its columns and the key of each side. -/
theorem sample_tables_cover :
    Covers Example.schema ∧
      ∃ f, select Example.schema Example.plan = .ok f ∧
        f.select.Covered (tables Example.schema) ∧
        f.select.mentions.take 8 = [.column (some "book") "id", .table "book",
          .table "book\"tag", .table "tag", .column (some "tag") "id",
          .column (some "book\"tag") "tag_id", .column (some "book\"tag") "book_id",
          .column (some "book") "id"] := by
  have covers := built_tables_cover Example.schema_built
  obtain ⟨f, -, hf, -, covered, -⟩ := covers.searched Example.plan_compiled (by decide)
  refine ⟨covers, f, hf, covered, ?_⟩
  have hselect : select Example.schema Example.plan = .ok f := hf
  cases hselect
  decide

end FieldSearch.Sql
