import FieldSearch.Proofs.Sql.Containment
import FieldSearch.Proofs.Store.Answer
import FieldSearch.Proofs.Store.Operands

/-!
# What a search reads of the store

A statement reads the table it is on and the tables whose rows its condition looks at, and a
rendered condition looks at the tables of the joins of its plan only. So two stores that agree on
these tables answer a search alike, or refuse it alike, whatever else is in them.
-/

namespace FieldSearch

open Sql

namespace Sql

/-- The tables whose rows are looked at. -/
def Related.tables (rows : Related) : List String :=
  rows.source.table :: rows.join.elim [] fun join => [join.source.table]

mutual

/-- The tables, other than that of the statement, whose rows a condition looks at. -/
def Condition.tables : Condition → List String
  | existsWith rows inner => rows.tables ++ inner.tables
  | existsAny rows => rows.tables
  | existsNone rows => rows.tables
  | not inner => inner.tables
  | and parts => allTables parts
  | or parts => allTables parts
  | _ => []

def Condition.allTables : List Condition → List String
  | [] => []
  | part :: rest => part.tables ++ allTables rest

end

theorem Condition.allTables_subset {parts : List Condition} {tables : List String}
    (h : ∀ part ∈ parts, part.tables ⊆ tables) : allTables parts ⊆ tables := by
  induction parts with
  | nil => exact List.nil_subset _
  | cons part rest ih =>
    rw [List.forall_mem_cons] at h
    exact List.append_subset.mpr ⟨h.1, ih h.2⟩

theorem Condition.part_tables {parts : List Condition} {part : Condition} (h : part ∈ parts) :
    part.tables ⊆ allTables parts := by
  induction parts with
  | nil => cases h
  | cons first rest ih =>
    rw [allTables]
    rcases List.mem_cons.mp h with rfl | h
    · exact List.subset_append_left _ _
    · exact List.subset_append_of_subset_right _ (ih h)

end Sql

namespace Store

/-- The stores have the same tables under these names, or have none. -/
def AgreeOn (s s' : Store) (tables : List String) : Prop :=
  ∀ name ∈ tables, s.table? name = s'.table? name

namespace AgreeOn

variable {s s' : Store} {tables more : List String}

theorem mono (agree : s.AgreeOn s' tables) (sub : more ⊆ tables) : s.AgreeOn s' more :=
  fun name hname => agree name (sub hname)

theorem append : s.AgreeOn s' (tables ++ more) ↔ s.AgreeOn s' tables ∧ s.AgreeOn s' more :=
  List.forall_mem_append

theorem cons {name : String} : s.AgreeOn s' (name :: tables) ↔
    s.table? name = s'.table? name ∧ s.AgreeOn s' tables :=
  List.forall_mem_cons

theorem part {parts : List Condition} {part : Condition}
    (agree : s.AgreeOn s' (Condition.allTables parts)) (h : part ∈ parts) :
    s.AgreeOn s' part.tables :=
  agree.mono (Condition.part_tables h)

/-! ### Conditions -/

theorem rowsOf {t : TableRef} (same : s.table? t.table = s'.table? t.table) :
    s.rowsOf t = s'.rowsOf t := by
  rw [Store.rowsOf, Store.rowsOf, same]

theorem related {rows : Related} (agree : s.AgreeOn s' rows.tables) (fs : Frames) :
    s.related fs rows = s'.related fs rows := by
  obtain ⟨source, join, inner, outer⟩ := rows
  obtain ⟨hsource, hjoin⟩ := cons.mp agree
  cases join with
  | none => simp only [Store.related, candidates, rowsOf hsource]
  | some join =>
    obtain ⟨hother, -⟩ := cons.mp hjoin
    simp only [Store.related, candidates, rowsOf hsource, rowsOf hother]

theorem scope? {rows : Related} (agree : s.AgreeOn s' rows.tables) (fs : Frames) :
    s.scope? fs rows = s'.scope? fs rows := by
  obtain ⟨source, join, inner, outer⟩ := rows
  obtain ⟨hsource, hjoin⟩ := cons.mp agree
  cases join with
  | none => simp only [Store.scope?, hsource]
  | some join =>
    obtain ⟨hother, -⟩ := cons.mp hjoin
    simp only [Store.scope?, hsource, hother]

/-- What a condition comes out as depends on the store only through the tables that it looks at. -/
theorem evalsTo {c : Condition} (agree : s.AgreeOn s' c.tables) (params : List Value)
    (wanted : Bool) (fs : Frames) :
    c.evalsTo s params wanted fs = c.evalsTo s' params wanted fs := by
  induction c using Condition.induct generalizing wanted fs with
  | existsWith rows inner ih =>
    obtain ⟨hrows, hinner⟩ := append.mp agree
    have same : (fun gs => inner.evalsTo s params true gs) =
        fun gs => inner.evalsTo s' params true gs := funext (ih hinner true)
    rw [Condition.evalsTo, Condition.evalsTo, related hrows, same]
  | existsAny rows => rw [Condition.evalsTo, Condition.evalsTo, related agree]
  | existsNone rows => rw [Condition.evalsTo, Condition.evalsTo, related agree]
  | not inner ih => exact ih agree (!wanted) fs
  | and parts ih =>
    have each : ∀ wanted, ∀ part ∈ parts,
        part.evalsTo s params wanted fs = part.evalsTo s' params wanted fs :=
      fun wanted part h => ih part h (agree.part h) wanted fs
    rw [Condition.evalsTo, Condition.evalsTo, Condition.everyEvalsTo_congr (each true),
      Condition.someEvalsTo_congr (each false)]
  | or parts ih =>
    have each : ∀ wanted, ∀ part ∈ parts,
        part.evalsTo s params wanted fs = part.evalsTo s' params wanted fs :=
      fun wanted part h => ih part h (agree.part h) wanted fs
    rw [Condition.evalsTo, Condition.evalsTo, Condition.someEvalsTo_congr (each true),
      Condition.everyEvalsTo_congr (each false)]
  | _ => rfl

/-- The names in a condition refer to something in both stores or in none. -/
theorem isBound {c : Condition} (agree : s.AgreeOn s' c.tables) (fs : Frames) :
    c.isBound s fs = c.isBound s' fs := by
  have all : ∀ {parts : List Condition} {fs : Frames},
      (∀ part ∈ parts, part.isBound s fs = part.isBound s' fs) →
      Condition.allBound s fs parts = Condition.allBound s' fs parts := by
    intro parts fs each
    induction parts with
    | nil => rfl
    | cons part rest ih =>
      rw [List.forall_mem_cons] at each
      rw [Condition.allBound, Condition.allBound, each.1, ih each.2]
  induction c using Condition.induct generalizing fs with
  | existsWith rows inner ih =>
    obtain ⟨hrows, hinner⟩ := append.mp agree
    have same : ∀ gs, inner.isBound s gs = inner.isBound s' gs := ih hinner
    simp only [Condition.isBound, isBoundWith, scope? hrows, same]
  | existsAny rows => simp only [Condition.isBound, isBoundWith, scope? agree]
  | existsNone rows => simp only [Condition.isBound, isBoundWith, scope? agree]
  | not inner ih => exact ih agree fs
  | and parts ih => exact all fun part h => ih part h (agree.part h) fs
  | or parts ih => exact all fun part h => ih part h (agree.part h) fs
  | _ => rfl

/-! ### Statements -/

/-- A statement depends on the store only through its table and those that its condition looks
at. -/
theorem run {f : Fragment}
    (agree : s.AgreeOn s' (f.select.source.table :: f.select.condition.tables)) :
    s.run f = s'.run f := by
  obtain ⟨hsource, hcondition⟩ := cons.mp agree
  have conjuncts : ∀ c ∈ f.select.condition.conjuncts, s.AgreeOn s' c.tables :=
    Condition.forall_conjuncts (fun parts h part hpart => h.part hpart) hcondition
  have disjuncts : ∀ c ∈ f.select.condition.conjuncts, ∀ part ∈ c.disjuncts,
      s.AgreeOn s' part.tables := fun c hc =>
    Condition.forall_disjuncts (fun parts h part hpart => h.part hpart)
      (fun parts h part hpart => h.part hpart) (conjuncts c hc)
  rw [Store.run, Store.run, hsource]
  cases s'.table? f.select.source.table with
  | none => rfl
  | some t =>
    have bound : s.isBound t f.select = s'.isBound t f.select := by
      rw [Store.isBound, Store.isBound, isBound hcondition]
    have visited : s.visited t f.params f.select = s'.visited t f.params f.select :=
      visited_congr t rfl fun c hc part hpart => (disjuncts c hc part hpart).evalsTo f.params true
    have filter : ∀ rows,
        s.filter f.params
            (f.select.condition.arranged f.params (t.isKey f.select.source.row)) rows =
          s'.filter f.params
            (f.select.condition.arranged f.params (t.isKey f.select.source.row)) rows := by
      intro rows
      apply filter_congr
      intro c hc
      exact (conjuncts c ((Condition.arranged_perm _ _ _).mem_iff.mp hc)).evalsTo f.params true
    simp only [bound, visited, filter]

end AgreeOn

end Store

/-! ### Plans -/

/-- The table that holds the pairs of an association. -/
def JoinKey.tables : JoinKey → List String
  | association table _ _ => [table]
  | _ => []

/-- The table of the target of a join and, if its relation is an association, the table of that. -/
def JoinEntry.tables (registry : Registry) (e : JoinEntry) : List String :=
  (registry.entity? e.target).elim [] (fun target => [target.table]) ++
    ((registry.entity? e.source).bind (·.relation? e.relation)).elim [] (·.join.tables)

/-- The table of the root of a plan and the tables of its joins. -/
def Plan.tables (registry : Registry) (plan : Plan) : List String :=
  (registry.entity? plan.root).elim [] (fun root => [root.table]) ++
    plan.joins.flatMap (·.tables registry)

namespace Sql

variable {registry : Registry}

theorem Binding.related_tables {e : JoinEntry} {b : Binding} (h : ofEntry registry e = .ok b)
    (target : e.target = b.relation.target) (o : Occurrence) :
    (b.related o).tables ⊆ e.tables registry := by
  obtain ⟨source, hsource, h⟩ := bind_eq_ok.mp h
  split at h
  next => cases h
  next r hr =>
    obtain ⟨entity, hentity, h⟩ := bind_eq_ok.mp h
    cases h
    rw [entityNamed_eq_ok] at hsource hentity
    have htables : e.tables registry = entity.table :: r.join.tables := by
      simp [JoinEntry.tables, target, hsource, hentity, hr]
    rw [htables, related]
    cases r.join <;> simp [Related.tables, JoinKey.tables]

/-- A rendered condition looks only at the tables of what the occurrences are bound to. -/
theorem condition_tables {s : Scope} {tables : List String}
    (each : ∀ {o b}, s.binding o = .ok b → (b.related o).tables ⊆ tables)
    {p : Predicate} {next : Nat} {c : Condition} (h : condition s next p = .ok c) :
    c.tables ⊆ tables := by
  refine condition_induct (motive := fun _ _ c => c.tables ⊆ tables)
    ?compare ?isIn ?isNull ?isNotNull ?exist ?related ?not ?and ?or p h
  case compare => exact fun _ _ _ _ _ _ => List.nil_subset _
  case isIn =>
    intro next column vs name _
    cases vs with
    | nil => exact List.nil_subset _
    | cons v rest => exact List.nil_subset _
  case isNull => exact fun _ _ _ _ => List.nil_subset _
  case isNotNull => exact fun _ _ _ _ => List.nil_subset _
  case exist =>
    intro next o inner b c hb hc
    exact List.append_subset.mpr ⟨each hb, hc⟩
  case related =>
    intro next o present b hb
    cases hj : b.relation.join with
    | foreignKey column =>
      -- a foreign key tells presence without a look at the target
      cases present <;> simp only [Binding.presence, hj, Condition.tables, List.nil_subset]
    | _ => cases present <;> simpa only [Binding.presence, hj, Condition.tables] using each hb
  case not => exact fun _ _ _ hc => hc
  case and =>
    intro next parts cs hcs
    exact Condition.allTables_subset (hcs.right fun _ _ _ _ hc => hc)
  case or =>
    intro next parts cs hcs
    exact Condition.allTables_subset (hcs.right fun _ _ _ _ hc => hc)

/-- The rows that the occurrences of a compiled plan stand for are in tables of the plan. -/
theorem Scope.compiled_tables (consistent : registry.Consistent) {config : Config} {name : String}
    {filter orderBy : Json} {page : Option Page} {plan : Plan}
    (compiled : (Compiler.mk registry config).compile name filter orderBy page = .ok plan)
    {s : Scope} (hs : ofPlan registry plan = .ok s) {o : Occurrence} {b : Binding}
    (hb : s.binding o = .ok b) : (b.related o).tables ⊆ plan.joins.flatMap (·.tables registry) := by
  obtain ⟨root, hroot, wf⟩ := Compiler.compile_joins consistent compiled
  obtain ⟨e, he, hentry⟩ := binding_ofEntry hs hb
  have hnamed : registry.entity? root.name = some root := (Registry.entity?_eq_some hroot).2 ▸ hroot
  obtain ⟨r, target, -, htarget, -, hbinding⟩ := Binding.ofEntry_eq_ok hnamed (wf e he)
  cases hentry.symm.trans hbinding
  intro table htable
  exact List.mem_flatMap.mpr ⟨e, he, Binding.related_tables hentry htarget.symm o htable⟩

end Sql

namespace Store

/-- Stores that agree on the tables of a compiled plan agree on those of its statements. -/
theorem AgreeOn.statement {registry : Registry} (consistent : registry.Consistent) {config : Config}
    {name : String} {filter orderBy : Json} {page : Option Page} {plan : Plan}
    (compiled : (Compiler.mk registry config).compile name filter orderBy page = .ok plan)
    {s s' : Store} (agree : s.AgreeOn s' (plan.tables registry)) {scope : Sql.Scope} {c : Condition}
    (hscope : Scope.ofPlan registry plan = .ok scope)
    (hc : condition scope 1 plan.predicate = .ok c) :
    s.AgreeOn s' (scope.root.table :: c.tables) := by
  rw [Plan.tables, Scope.ofPlan_root hscope] at agree
  refine agree.mono (List.cons_subset_cons _ (condition_tables ?_ hc))
  exact Scope.compiled_tables consistent compiled hscope

/-- A search reads the table of its root, the tables of the targets of its joins and those of their
associations, and no others: on stores that agree on these it returns the same keys and the same
count, or fails in the same way. -/
theorem search_reads_own_tables {entities : List Entity} {aliases : List EntityAlias}
    {registry : Registry} (built : Registry.build entities aliases = .ok registry)
    {config : Config} {name : String} {filter orderBy : Json} {page : Option Page} {plan : Plan}
    (compiled : (Compiler.mk registry config).compile name filter orderBy page = .ok plan)
    {s s' : Store} (agree : s.AgreeOn s' (plan.tables registry)) :
    s.execute registry plan = s'.execute registry plan ∧
      s.count registry plan = s'.count registry plan := by
  have consistent := Registry.build_consistent built
  constructor
  · refine bind_congr_ok fun f hf => ?_
    obtain ⟨scope, c, order, hscope, hc, -, rfl⟩ := select_eq_ok.mp (mapError_eq_ok.mp hf)
    rw [AgreeOn.run (agree.statement consistent compiled hscope hc)]
  · refine bind_congr_ok fun f hf => ?_
    obtain ⟨scope, c, hscope, hc, rfl⟩ := count_eq_ok.mp (mapError_eq_ok.mp hf)
    rw [AgreeOn.run (agree.statement consistent compiled hscope hc)]

namespace Bookcase

/-- Books with a tag of rank 1. -/
def ranked : Json := .array [.string "Book", .string "tags", .string "rank", .string "=", .int 1]

def rankedPlan : Plan where
  root := "Book"
  predicate := .exist ⟨1⟩ (.compare ⟨⟨1⟩, "rank"⟩ .eq (.integer 1))
  joins := [⟨⟨1⟩, "Book", "tags", "Tag", .toMany⟩]
  orderBy := [⟨⟨.root, "id"⟩, .asc, false⟩]
  page := none

/-- The library without its table of authors. -/
def anonymous : Store := ⟨library.tables.tail⟩

end Bookcase

open Bookcase in
/-- The authors of books do not matter to a search for their tags. -/
theorem sample_footprint :
    rankedPlan.tables Sql.Example.schema = ["book", "tag", "book\"tag"] ∧
      library.table? "author" ≠ anonymous.table? "author" ∧
      library.execute Sql.Example.schema rankedPlan =
        anonymous.execute Sql.Example.schema rankedPlan ∧
      library.count Sql.Example.schema rankedPlan =
        anonymous.count Sql.Example.schema rankedPlan := by
  have compiled : (Compiler.mk Sql.Example.schema Sql.Example.config).compile "Book" ranked .null
      none = .ok rankedPlan := (Compiler.compile_eq ..).trans rfl
  have tables : rankedPlan.tables Sql.Example.schema = ["book", "tag", "book\"tag"] := by decide
  have agree : library.AgreeOn anonymous (rankedPlan.tables Sql.Example.schema) := by
    rw [tables]
    simp only [AgreeOn.cons]
    exact ⟨rfl, rfl, rfl, List.forall_mem_nil _⟩
  exact ⟨tables, by decide, search_reads_own_tables Sql.Example.schema_built compiled agree⟩

end Store

end FieldSearch
