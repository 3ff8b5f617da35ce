import FieldSearch.Proofs.Sql.Reading
import FieldSearch.Proofs.Sql.Tables

/-!
# Reading the declaration of a table

How the tokens of a statement that creates a table are read: its name, then its columns with their
types, one of which may be marked as primary key. The declarations of a schema are read as the
tables that they were made for.
-/

namespace FieldSearch.Sql

open Sql.Expr Token

/-! ### The grammar of declarations -/

def StorageType.ofName? : String → Option StorageType
  | "INTEGER" => some .integer
  | "REAL" => some .real
  | "TEXT" => some .text
  | _ => none

/-- A column, and whether it is marked as primary key. -/
def readColumn : List Token → Option ((ColumnDef × Bool) × List Token)
  | .quoted name :: .word typeName :: ts => do
    let type ← StorageType.ofName? typeName
    match expect (.word "PRIMARY") ts with
    | none => pure ((⟨name, type⟩, false), ts)
    | some ts => do
      let ts ← expect (.word "KEY") ts
      pure ((⟨name, type⟩, true), ts)
  | _ => none

/-- The primary key of columns of which at most one is marked. -/
def keyOf? (columns : List (ColumnDef × Bool)) : Option (Option String) :=
  match (columns.filter (·.2)).map (·.1.name) with
  | [] => some none
  | [name] => some (some name)
  | _ => none

/-- Read the whole text as the declaration of a table. -/
def TableDef.ofText? (text : String) : Option TableDef := do
  match ← tokens text with
  | .word "CREATE" :: .word "TABLE" :: .word "IF" :: .word "NOT" :: .word "EXISTS" ::
      .quoted name :: .symbol "(" :: ts => do
    let (columns, ts) ← readList readColumn (ts.length + 1) ts
    let key ← keyOf? columns
    if ts = [.symbol ")"] then some ⟨name, key, columns.map (·.1)⟩ else none
  | _ => none

/-! ### The tokens of a declaration -/

def Token.quotedName? : Token → Option String
  | .quoted name => some name
  | _ => none

namespace TableDef

def isMarked (t : TableDef) (c : ColumnDef) : Bool := t.primaryKey == some c.name

def columnTokens (t : TableDef) (c : ColumnDef) : List Token :=
  [.quoted c.name, .word c.type.name] ++
    if t.isMarked c then [.word "PRIMARY", .word "KEY"] else []

def createTokens (t : TableDef) : List Token :=
  [.word "CREATE", .word "TABLE", .word "IF", .word "NOT", .word "EXISTS", .quoted t.name,
    .symbol "("] ++ listTokens (.symbol ",") (t.columns.map t.columnTokens) ++ [.symbol ")"]

theorem reads_column (t : TableDef) (c : ColumnDef) :
    Reads (t.columnText c) (t.columnTokens c) := by
  have htype : Reads c.type.name [.word c.type.name] := by cases c.type <;> decide
  have hkey : Reads " PRIMARY KEY" [.word "PRIMARY", .word "KEY"] := by decide
  have h := ((reads_quoteIdentifier c.name).opens separated_blank opens_blank).reads htype
  rw [columnText, columnTokens, isMarked]
  split
  · exact h.reads (separated_of rfl rfl) hkey
  · simpa using h

/-- A declaration is read as its tokens. -/
theorem reads_create (t : TableDef) : Reads t.createText t.createTokens := by
  have hcreate : Opens "CREATE TABLE IF NOT EXISTS "
      [.word "CREATE", .word "TABLE", .word "IF", .word "NOT", .word "EXISTS"] := by decide
  have hopen : Opens " (" [.symbol "("] := by decide
  have hcomma : Opens ", " [.symbol ","] := by decide
  have hclose : Reads ")" [.symbol ")"] := by decide
  have hcolumns := reads_list (separated_of rfl rfl) hcomma fun c (_ : c ∈ t.columns) =>
    t.reads_column c
  have h := ((hcreate.reads (reads_quoteIdentifier t.name)).opens (separated_of rfl rfl)
    hopen).reads hcolumns
  exact h.reads (separated_of rfl rfl) hclose

/-- The names that are quoted in a declaration. -/
theorem quoted_createTokens (t : TableDef) :
    t.createTokens.filterMap quotedName? = t.name :: t.columns.map (·.name) := by
  have hcolumn : ∀ c ∈ t.columns, (t.columnTokens c).filterMap quotedName? = [c.name] := by
    intro c _
    rw [columnTokens]
    cases t.isMarked c <;> rfl
  have hcolumns : (listTokens (.symbol ",") (t.columns.map t.columnTokens)).filterMap quotedName? =
      t.columns.map (·.name) := by
    rw [listTokens_filterMap rfl, List.flatMap_map, List.flatMap_congr hcolumn,
      ← List.map_eq_flatMap]
  rw [createTokens, List.filterMap_append, List.filterMap_append, hcolumns]
  exact congrArg (t.name :: ·) (List.append_nil _)

/-! ### The tokens are read as the table -/

theorem readColumn_tokens (t : TableDef) (c : ColumnDef) {rest : List Token}
    (ends : expect (.word "PRIMARY") rest = none) :
    readColumn (t.columnTokens c ++ rest) = some ((c, t.isMarked c), rest) := by
  obtain ⟨name, type⟩ := c
  rw [columnTokens]
  cases t.isMarked ⟨name, type⟩ with
  | true => cases type <;> rfl
  | false => cases type <;> simp [readColumn, StorageType.name, StorageType.ofName?, ends]

theorem readColumns_tokens {t : TableDef} (columns : t.columns ≠ []) {ts : List Token}
    (hts : ts = listTokens (.symbol ",") (t.columns.map t.columnTokens) ++ [.symbol ")"]) :
    readList readColumn (ts.length + 1) ts =
      some (t.columns.map fun c => (c, t.isMarked c), [.symbol ")"]) := by
  refine readList_tokens rfl columns (fun c _ us hus => t.readColumn_tokens c ?_) hts
  rcases hus with rfl | hus
  · rfl
  · obtain ⟨vs, rfl⟩ := List.head?_eq_some_iff.mp hus
    rfl

theorem keyOf?_marked {t : TableDef} (key : t.marked = t.primaryKey.toList) :
    keyOf? (t.columns.map fun c => (c, t.isMarked c)) = some t.primaryKey := by
  have hmarked : ((t.columns.map fun c => (c, t.isMarked c)).filter (·.2)).map (·.1.name) =
      t.primaryKey.toList := by
    rw [← key, marked, List.filter_map, List.filter_map, List.map_map]
    rfl
  rw [keyOf?, hmarked]
  cases t.primaryKey <;> rfl

/-- The declaration of a table with columns, of which its key is one, is read as the table. -/
theorem ofText?_createText {t : TableDef} (columns : t.columns ≠ [])
    (key : t.marked = t.primaryKey.toList) : ofText? t.createText = some t := by
  have htokens : tokens t.createText = some t.createTokens := t.reads_create
  have hcolumns := readColumns_tokens columns rfl
  rw [createTokens, List.append_assoc] at htokens
  simp only [ofText?, htokens, List.cons_append, List.nil_append, Option.bind_eq_bind,
    Option.bind_some, hcolumns, keyOf?_marked key, if_true, List.map_map]
  simp [Function.comp_def]

example : ofText? "CREATE TABLE IF NOT EXISTS \"a\"\"b\" (\"id\" INTEGER PRIMARY KEY, \"t\" TEXT)" =
    some ⟨"a\"b", some "id", [⟨"id", .integer⟩, ⟨"t", .text⟩]⟩ := by
  decide +kernel

end TableDef

variable {registry : Registry}

/-- The declarations of a schema are read as its tables. -/
theorem createTexts_read {entities : List Entity} {aliases : List EntityAlias}
    (built : Registry.build entities aliases = .ok registry) :
    (createTexts registry).map TableDef.ofText? = (tables registry).map some := by
  have consistent := Registry.build_consistent built
  rw [createTexts, List.map_map]
  refine List.map_congr_left fun t ht => ?_
  exact TableDef.ofText?_createText (columns_ne_nil consistent ht) (marked_eq_key consistent ht)

end FieldSearch.Sql
