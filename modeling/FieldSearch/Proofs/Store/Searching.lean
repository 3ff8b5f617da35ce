import FieldSearch.Proofs.Store.Answer

/-!
# Accepted requests succeed

A plan that was compiled can be executed and counted in every store that carries the schema and
holds text where attributes are strings. The names in its statements refer to something, and all
that is searched for is the pattern of some leaf, as it was checked, in an attribute that is a
string.
-/

namespace FieldSearch

open Sql

namespace Predicate

mutual

/-- The columns that are searched, each with its pattern. -/
def searches : Predicate → List (Column × Scalar)
  | compare c comparison v => if comparison = .regex then [(c, v)] else []
  | isIn _ _ => []
  | isNull _ => []
  | isNotNull _ => []
  | exist _ inner => inner.searches
  | related _ _ => []
  | not inner => inner.searches
  | and parts => allSearches parts
  | or parts => allSearches parts

def allSearches : List Predicate → List (Column × Scalar)
  | [] => []
  | part :: rest => part.searches ++ allSearches rest

end

theorem mem_allSearches {parts : List Predicate} {search : Column × Scalar} :
    search ∈ allSearches parts ↔ ∃ part ∈ parts, search ∈ part.searches := by
  induction parts with
  | nil => simp [allSearches]
  | cons part rest ih => simp only [allSearches, List.mem_append, ih, List.exists_mem_cons_iff]

variable {registry : Registry} {root : Entity} {joins : List JoinEntry}
  {inside : Option Occurrence}

/-- A search is for a valid pattern, in an attribute that is a string. -/
theorem WellFormed.search {p : Predicate} (wf : p.WellFormed registry root joins inside)
    {c : Column} {v : Scalar} (h : (c, v) ∈ p.searches) :
    ∃ inside a pattern, c.Names registry root joins inside a ∧ a.type = .string ∧
      v = .string pattern ∧ Pattern.isValid pattern = true := by
  induction wf with
  | @compare inside c' a comparison v' names _ _ htype isString _ valid =>
    rw [searches] at h
    split at h
    next hregex =>
      cases List.mem_singleton.mp h
      have hstring : a.type = .string := isString (by rw [hregex]; rfl)
      rw [hstring] at htype
      cases v with
      | string pattern =>
        exact ⟨inside, a, pattern, names, hstring, rfl, valid pattern hregex rfl⟩
      | _ => cases htype
    next => cases h
  | isIn => cases h
  | isNull => cases h
  | isNotNull => cases h
  | exist _ _ ih => exact ih h
  | related => cases h
  | not _ ih => exact ih h
  | and _ _ ih =>
    obtain ⟨part, hpart, hsearch⟩ := mem_allSearches.mp h
    exact ih part hpart hsearch
  | or _ _ ih =>
    obtain ⟨part, hpart, hsearch⟩ := mem_allSearches.mp h
    exact ih part hpart hsearch

theorem ofOperand_search {c c' : Column} {comparison : Comparison} {operand : Operand} {v : Scalar}
    (h : (c', v) ∈ (ofOperand c comparison operand).searches) :
    c' = c ∧ comparison = .regex ∧ operand = .single v := by
  have none_of_list : ∀ vs, (ofList c vs).searches = [] := by
    intro vs
    rw [ofList]
    split
    · rfl
    · split <;> rfl
  have of_compare : ∀ w, (c', v) ∈ (compare c comparison w).searches →
      c' = c ∧ comparison = .regex ∧ Operand.single w = .single v := by
    intro w hw
    rw [searches] at hw
    split at hw
    next hregex =>
      cases List.mem_singleton.mp hw
      exact ⟨rfl, hregex, rfl⟩
    next => cases hw
  cases operand with
  | single w =>
    cases w with
    | null =>
      rw [ofOperand] at h
      split at h <;> cases h
    | _ => exact of_compare _ h
  | list vs =>
    rw [ofOperand, none_of_list] at h
    cases h

/-- All that is searched for is the pattern of a leaf. -/
theorem lowered_search {p : JoinPlan} {f : ResolvedFilter} (serves : p.Serves f) {c : Column}
    {v : Scalar} (h : (c, v) ∈ (lowered p f).searches) :
    ∃ via entity, .compare via entity c.name .regex (.single v) ∈ f.leaves := by
  have group : ∀ {children : List ResolvedFilter},
      (∀ child ∈ children, (c, v) ∈ (lowered p child).searches →
        ∃ via entity, .compare via entity c.name .regex (.single v) ∈ child.leaves) →
      (c, v) ∈ allSearches (children.map (lowered p)) →
      ∃ via entity, .compare via entity c.name .regex (.single v) ∈
        ResolvedFilter.leavesOf children := by
    intro children each hsearch
    obtain ⟨part, hpart, hsearch⟩ := mem_allSearches.mp hsearch
    obtain ⟨child, hchild, rfl⟩ := List.mem_map.mp hpart
    obtain ⟨via, entity, hleaf⟩ := each child hchild hsearch
    exact ⟨via, entity, ResolvedFilter.mem_leavesOf.mpr ⟨child, hchild, hleaf⟩⟩
  induction f using ResolvedFilter.induct with
  | leaf l =>
    cases l with
    | compare via entity name comparison operand =>
      have hsearch : ∃ o, (c, v) ∈ (ofOperand ⟨o, name⟩ comparison operand).searches := by
        cases via with
        | none => exact ⟨.root, h⟩
        | some t =>
          obtain ⟨o, -, hp⟩ := (serves _ List.mem_cons_self t rfl).allocate
          rw [lowered_via _ _ _ _ hp] at h
          exact ⟨o, h⟩
      obtain ⟨o, hsearch⟩ := hsearch
      obtain ⟨rfl, rfl, rfl⟩ := ofOperand_search hsearch
      exact ⟨via, entity, List.mem_cons_self⟩
    | presence t present =>
      obtain ⟨o, -, hp⟩ := (serves _ List.mem_cons_self t rfl).allocate
      rw [lowered_presence _ hp] at h
      cases h
  | not child ih => exact ih serves.child h
  | and children ih =>
    rw [lowered_and serves] at h
    exact group (fun child hchild => ih child hchild (serves.and child hchild)) h
  | or children ih =>
    rw [lowered_or serves] at h
    exact group (fun child hchild => ih child hchild (serves.or child hchild)) h

end Predicate

namespace Sql

namespace Condition

mutual

/-- The columns that are searched, each with the number of the parameter that is the pattern. -/
def searches : Condition → List (ColumnName × Nat)
  | compare c comparison n => if comparison = .regex then [(c, n)] else []
  | isIn _ _ => []
  | isNull _ => []
  | isNotNull _ => []
  | existsWith _ inner => inner.searches
  | existsAny _ => []
  | existsNone _ => []
  | not inner => inner.searches
  | and parts => allSearches parts
  | or parts => allSearches parts

def allSearches : List Condition → List (ColumnName × Nat)
  | [] => []
  | part :: rest => part.searches ++ allSearches rest

end

theorem mem_allSearches {parts : List Condition} {search : ColumnName × Nat} :
    search ∈ allSearches parts ↔ ∃ part ∈ parts, search ∈ part.searches := by
  induction parts with
  | nil => simp [allSearches]
  | cons part rest ih => simp only [allSearches, List.mem_append, ih, List.exists_mem_cons_iff]

end Condition

/-- A rendered condition searches for what the predicate searches for. -/
theorem condition_search {s : Scope} {params : List Value} {p : Predicate} {next : Nat}
    {c : Condition} (h : condition s next p = .ok c) (supplies : Supplies params next p.operands)
    {name : ColumnName} {n : Nat} (hsearch : (name, n) ∈ c.searches) :
    ∃ column v, (column, v) ∈ p.searches ∧ name = ⟨.row column.occurrence, column.name⟩ ∧
      Store.operand params n = .ofScalar v := by
  let Searched (searches : List (Column × Scalar)) : Prop :=
    ∃ column v, (column, v) ∈ searches ∧ name = ⟨.row column.occurrence, column.name⟩ ∧
      Store.operand params n = .ofScalar v
  have group : ∀ {next parts cs}, Numbered (fun next p c => Supplies params next p.operands →
      (name, n) ∈ c.searches → Searched p.searches) next parts cs →
      Supplies params next (Predicate.allOperands parts) → (name, n) ∈ Condition.allSearches cs →
      Searched (Predicate.allSearches parts) := by
    intro next parts cs hcs supplies hsearch
    obtain ⟨c, hc, hsearch⟩ := Condition.mem_allSearches.mp hsearch
    have each := hcs.supplied supplies fun part _ next c ih supplies => ih supplies
    obtain ⟨part, hpart, found⟩ := forall₂_mem_right each hc
    obtain ⟨column, v, hmem, hrest⟩ := found hsearch
    exact ⟨column, v, Predicate.mem_allSearches.mpr ⟨part, hpart, hmem⟩, hrest⟩
  refine condition_induct (motive := fun next p c => Supplies params next p.operands →
    (name, n) ∈ c.searches → Searched p.searches)
    ?compare ?isIn ?isNull ?isNotNull ?exist ?related ?not ?and ?or p h supplies hsearch
  case compare =>
    intro next column comparison v name' hname supplies hsearch
    rw [Condition.searches] at hsearch
    split at hsearch
    next hregex =>
      cases List.mem_singleton.mp hsearch
      have hv : Store.operand params n = .ofScalar v := Supplies.single supplies
      refine ⟨column, v, ?_, Scope.column_eq hname, hv⟩
      rw [Predicate.searches, if_pos hregex]
      exact List.mem_cons_self
    next => cases hsearch
  case isIn =>
    intro next column vs name' _ _ hsearch
    cases vs <;> cases hsearch
  case isNull => intro next column name' _ _ hsearch; cases hsearch
  case isNotNull => intro next column name' _ _ hsearch; cases hsearch
  case exist => intro next o inner b c _ ih supplies hsearch; exact ih supplies hsearch
  case related =>
    intro next o present b _ _ hsearch
    cases hj : b.relation.join <;> cases present <;>
      simp [Binding.presence, hj, Condition.searches] at hsearch
  case not => intro next inner c ih supplies hsearch; exact ih supplies hsearch
  case and => intro next parts cs hcs supplies hsearch; exact group hcs supplies hsearch
  case or => intro next parts cs hcs supplies hsearch; exact group hcs supplies hsearch

end Sql

namespace Store

variable {st : Store} {registry : Registry}

/-- The parameter is the pattern of a leaf of the filter, a valid one, and the column is that of an
attribute that is a string. -/
inductive SearchesFor (registry : Registry) (root : Entity) (joins : List JoinEntry)
    (filter : ResolvedFilter) (params : List Value) : ColumnName × Nat → Prop
  | pattern {inside : Option Occurrence} {c : Column} {a : Attribute} {via : Option Traversal}
      {entity p : String} {n : Nat} : c.Names registry root joins inside a → a.type = .string →
      .compare via entity c.name .regex (.single (.string p)) ∈ filter.leaves →
      operand params n = .text p → Pattern.isValid p = true →
      SearchesFor registry root joins filter params (⟨.row c.occurrence, c.name⟩, n)

/-- Whatever the statements of a compiled plan search for was checked. -/
theorem compiles_searches {compiler : Compiler} {name : String} {filter : Json}
    {page : Option Page} {plan : Plan} {root : Entity} {resolved : ResolvedFilter}
    (compiles : compiler.Compiles name filter page plan root resolved) {s : Sql.Scope}
    {c : Condition} (h : condition s 1 plan.predicate = .ok c) (rest : List Value) :
    ∀ search ∈ c.searches, SearchesFor compiler.registry root plan.joins resolved
      (operandValues plan ++ rest) search := by
  rintro ⟨name, n⟩ hsearch
  obtain ⟨column, v, hmem, rfl, hoperand⟩ :=
    condition_search h (supplies_operands _ rest) hsearch
  obtain ⟨inside, a, p, names, hstring, rfl, valid⟩ := compiles.wellFormed.predicate.search hmem
  rw [compiles.predicate] at hmem
  obtain ⟨via, entity, hleaf⟩ :=
    Predicate.lowered_search (JoinPlan.ofFilter_serves resolved) hmem
  exact .pattern names hstring hleaf hoperand valid

namespace Bookcase

/-- Books with a title that begins with T, or with a tag of rank 3 and an author. -/
def titled : Json :=
  .array [.string "or", .array [
    .array [.string "Book", .string "title", .string "regex", .string "^T"],
    .array [.string "and", .array [
      .array [.string "Book", .string "tags", .string "rank", .string "=", .int 3],
      .array [.string "Book", .string "author", .string "!=", .null]]]]]

def titledPlan : Plan where
  root := "Book"
  predicate := .or [
    .compare ⟨.root, "title"⟩ .regex (.string "^T"),
    .and [.exist ⟨1⟩ (.compare ⟨⟨1⟩, "rank"⟩ .eq (.integer 3)), .related ⟨2⟩ true]]
  joins := [⟨⟨1⟩, "Book", "tags", "Tag", .toMany⟩, ⟨⟨2⟩, "Book", "author", "Author", .toOne⟩]
  orderBy := [⟨⟨.root, "id"⟩, .asc, false⟩]
  page := some ⟨1, 10⟩

theorem titled_compiled : (Compiler.mk Sql.Example.schema Sql.Example.config).compile "Book" titled
    .null (some ⟨1, 10⟩) = .ok titledPlan := (Compiler.compile_eq ..).trans rfl

/-- A store with more than the schema asks for, and with other types and keys. -/
def archive : Store :=
  ⟨[⟨⟨"shelf", none, [⟨"room", .real⟩]⟩, []⟩,
    ⟨⟨"BOOK", none, [⟨"Title", .text⟩, ⟨"isbn", .text⟩, ⟨"ID", .real⟩, ⟨"pages", .text⟩,
        ⟨"author_id", .text⟩]⟩,
      [⟨1, [.text "Two", .text "0", number 2, .text "many", .text "7"]⟩,
        ⟨2, [.null, .null, .null, .null, .null]⟩]⟩,
    ⟨⟨"author", some "id", [⟨"id", .integer⟩, ⟨"born", .integer⟩]⟩, []⟩,
    ⟨⟨"book\"tag", none, [⟨"tag_id", .integer⟩, ⟨"book_id", .integer⟩]⟩,
      [⟨1, [number 3, number 2]⟩]⟩,
    ⟨⟨"tag", some "id", [⟨"id", .integer⟩, ⟨"rank", .integer⟩]⟩, [⟨3, [number 3, .null]⟩]⟩]⟩

theorem archive_carries : archive.Carries Sql.Example.schema := by decide

theorem archive_hasTexts : archive.HasTexts Sql.Example.schema := by decide

end Bookcase

/-- A compiled plan is executed and counted without failure by every store that carries the schema
and has texts where attributes are strings. Both of its statements search only for patterns that
were checked, in attributes that are strings. -/
theorem accepted_search_succeeds {entities : List Entity} {aliases : List EntityAlias}
    (built : Registry.build entities aliases = .ok registry) {config : Config} {name : String}
    {filter orderBy : Json} {page : Option Page} {plan : Plan}
    (compiled : (Compiler.mk registry config).compile name filter orderBy page = .ok plan)
    (size : plan.joins.length < UInt32.size) (carries : st.Carries registry)
    (texts : st.HasTexts registry) :
    (∃ keys, st.execute registry plan = .ok keys) ∧ (∃ n, st.count registry plan = .ok n) ∧
      ∃ root resolved f g, (Compiler.mk registry config).root name = .ok root ∧
        (Compiler.mk registry config).resolve root filter = .ok resolved ∧
        Sql.select registry plan = .ok f ∧ Sql.count registry plan = .ok g ∧
        (∀ search ∈ f.select.condition.searches,
          SearchesFor registry root plan.joins resolved f.params search) ∧
        ∀ search ∈ g.select.condition.searches,
          SearchesFor registry root plan.joins resolved g.params search := by
  have consistent := Registry.build_consistent built
  obtain ⟨root, resolved, compiles⟩ := Compiler.compile_compiles consistent compiled size
  have wf := compiles.wellFormed
  have hroot := wf.root_mem
  obtain ⟨s, c, t, readable⟩ := carries.readable consistent wf
  have quiet := texts.quietOn hroot wf readable.fits readable.rendered
  refine ⟨readable.exists_execute quiet, readable.exists_count quiet, root, resolved, _, _,
    compiles.start, compiles.resolve, readable.select, readable.count, ?_, ?_⟩
  · exact compiles_searches compiles readable.rendered _
  · have searches := compiles_searches compiles readable.rendered []
    rw [List.append_nil] at searches
    exact searches

open Bookcase in
theorem archive_searched :
    (∃ keys, archive.execute Sql.Example.schema titledPlan = .ok keys) ∧
      (∃ n, archive.count Sql.Example.schema titledPlan = .ok n) ∧
      ∃ root resolved f g,
        (Compiler.mk Sql.Example.schema Sql.Example.config).root "Book" = .ok root ∧
        (Compiler.mk Sql.Example.schema Sql.Example.config).resolve root titled = .ok resolved ∧
        Sql.select Sql.Example.schema titledPlan = .ok f ∧
        Sql.count Sql.Example.schema titledPlan = .ok g ∧
        (∀ search ∈ f.select.condition.searches,
          SearchesFor Sql.Example.schema root titledPlan.joins resolved f.params search) ∧
        ∀ search ∈ g.select.condition.searches,
          SearchesFor Sql.Example.schema root titledPlan.joins resolved g.params search :=
  accepted_search_succeeds Sql.Example.schema_built titled_compiled (by decide) archive_carries
    archive_hasTexts

end Store

end FieldSearch
