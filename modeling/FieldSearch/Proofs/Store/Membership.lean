import FieldSearch.Proofs.Search.Membership
import FieldSearch.Proofs.Store.Reordering

/-!
# Searches with membership and with equalities

A search for the members of a list and the search with the disjunction of equalities in its place
find the same rows. They may visit them in another order, which is seen only in rows that the keys
of the search leave equal: in those whose primary keys are strings that differ only by case.
-/

namespace FieldSearch

open Sql

/-- Plans with the same joins from equivalent filters have the same truth on every row. -/
theorem ResolvedFilter.Equivalent.plan_truth {c : Compiler} {name : String} {filter filter' : Json}
    {page : Option Page} {plan plan' : Plan} {root : Entity} {r r' : ResolvedFilter}
    (equivalent : r.Equivalent r') (compiles : c.Compiles name filter page plan root r)
    (compiles' : c.Compiles name filter' page plan' root r') (consistent : c.registry.Consistent)
    (st : Store) (row : Store.Record) :
    plan'.truth c.registry st row = plan.truth c.registry st row := by
  rw [compiles'.truth_eq consistent, compiles.truth_eq consistent, equivalent.truth]

namespace Store

variable {st : Store} {registry : Registry} {root : Entity} {plan plan' : Plan}

/-- The count is the number of rows on which the predicate of the plan is true. -/
theorem count_rows (wf : plan.WellFormed registry root) {n : Nat}
    (h : st.count registry plan = .ok n) :
    n = min ((st.records root.table).filter fun row =>
      plan.truth registry st row == some true).length largestWord := by
  obtain ⟨s, c, hs, -, hc, -, hcount⟩ := wellFormed_rendered wf
  rw [count, mapError_eq_ok.mpr hcount] at h
  obtain ⟨_, hf, h⟩ := bind_eq_ok.mp h
  cases hf
  obtain ⟨values, hrun, h⟩ := bind_eq_ok.mp h
  obtain ⟨t, found, accepts, hfound, rfl⟩ := run_eq_ok.mp (mapError_eq_ok.mp hrun)
  obtain ⟨rows, rfl, perm⟩ := find_records accepts.table rfl hfound
  cases h
  have hlength := perm.length_eq
  simp only [countStatement, rendered_truth wf hs hc] at hlength
  rw [List.length_map, Value.toCount_ofCount, hlength]

/-- Plans with the same truth on every row count the same. -/
theorem count_alike (wf : plan.WellFormed registry root) (wf' : plan'.WellFormed registry root)
    (truth : ∀ row, plan'.truth registry st row = plan.truth registry st row) {n n' : Nat}
    (h : st.count registry plan = .ok n) (h' : st.count registry plan' = .ok n') : n' = n := by
  rw [count_rows wf h, count_rows wf' h']
  simp only [truth]

open FieldSearch.Filter in
/-- A membership leaf is accepted just if the equality with each member is. Wherever it stands in a
filter, the disjunction of the equalities may stand in its place, unless the filter is too complex
with it. The joins and the count stay the same, and so does the answer but for rows that the
ordering leaves equal: those are in either order. No rows with different keys are left equal unless
these are strings that differ only by case. -/
theorem membership_is_disjunction {entities : List Entity} {aliases : List EntityAlias}
    (built : Registry.build entities aliases = .ok registry) {config : Config} {name : String}
    (start : (Compiler.mk registry config).root name = .ok root) (orderBy : Json)
    (page : Option Page) :
    (∀ path inToken eqToken vs, Enumerates root path inToken eqToken vs →
      ((∃ plan, (Compiler.mk registry config).compile name (leafNode path inToken (.array vs))
          orderBy page = .ok plan) ↔
        ∀ v ∈ vs, ∃ plan, (Compiler.mk registry config).compile name (leafNode path eqToken v)
          orderBy page = .ok plan)) ∧
    ∀ node node', NodeEnumerated root node node' →
      ((∃ plan', (Compiler.mk registry config).compile name node' orderBy page = .ok plan') ↔
        (∃ plan, (Compiler.mk registry config).compile name node orderBy page = .ok plan) ∧
          ¬ Over config.bounds (measure node')) ∧
      ∀ plan plan', (Compiler.mk registry config).compile name node orderBy page = .ok plan →
        (Compiler.mk registry config).compile name node' orderBy page = .ok plan' →
        plan.joins.length < UInt32.size →
        plan'.joins = plan.joins ∧
        ∃ key, root.primaryKeyAttribute? = some key ∧ ∀ st,
          (∀ n n', Store.count st registry plan = .ok n → Store.count st registry plan' = .ok n' →
            n' = n) ∧
          ∀ keys keys', Store.execute st registry plan = .ok keys →
            Store.execute st registry plan' = .ok keys' →
            (∃ n, Store.count st registry plan = .ok n ∧ Store.count st registry plan' = .ok n) ∧
            SameButTies st root plan keys keys' ∧
            ((∀ a ∈ st.records root.table, ∀ b ∈ st.records root.table,
              Value.cmpFor key.type.isText (a.value root.primaryKey) (b.value root.primaryKey) =
                .eq → a.value root.primaryKey = b.value root.primaryKey) → keys' = keys) := by
  have consistent := Registry.build_consistent built
  refine ⟨fun path inToken eqToken vs h => Compiler.exists_compile_members start h, ?_⟩
  intro node node' h
  refine ⟨Compiler.exists_compile_enumerated start h, ?_⟩
  intro plan plan' hp hp' size
  obtain ⟨⟨joins, order, hpage⟩, equivalent⟩ := Compiler.compile_enumerated start h hp hp'
  obtain ⟨_, r, compiles⟩ := Compiler.compile_compiles consistent hp size
  obtain ⟨_, r', compiles'⟩ := Compiler.compile_compiles consistent hp' (joins ▸ size)
  cases start.symm.trans compiles.start
  cases start.symm.trans compiles'.start
  have truth := (equivalent r r' compiles.resolve compiles'.resolve).plan_truth compiles compiles'
    consistent
  have sound := consistent.sound root (Compiler.root_mem start)
  obtain ⟨key, hkey⟩ := Option.isSome_iff_exists.mp sound.key
  obtain ⟨sorts, hsorts⟩ := Compiler.compile_terms hp start
  refine ⟨joins, key, hkey, fun st => ⟨?counts, ?answers⟩⟩
  case counts =>
    exact fun n n' => count_alike compiles.wellFormed compiles'.wellFormed (truth st)
  case answers =>
    intro keys keys' hkeys hkeys'
    obtain ⟨counted, same⟩ := execute_alike compiles.wellFormed compiles'.wellFormed order hpage
      (truth st) hkeys hkeys'
    exact ⟨counted, same, same.eq fun a b => ties_keys sound hkey hsorts⟩

namespace Bookcase

open FieldSearch.Filter

/-- Books without a tag of rank 1 or of no rank. -/
def unranked : Json :=
  .array [.string "not", leafNode ["Book", "tags", "rank"] "in" (.array [.int 1, .null, .int 1])]

def unrankedApart : Json :=
  .array [.string "not", .array [.string "or", .array
    ([.int 1, .null, .int 1].map (leafNode ["Book", "tags", "rank"] "="))]]

theorem rank_enumerates : Enumerates Sql.Example.book ["Book", "tags", "rank"] "in" "="
    [.int 1, .null, .int 1] where
  length := by decide
  scalar := by
    rintro ⟨r, -, h⟩
    simp at h
  membership := by decide
  equality := by decide
  full := by decide

def unrankedPlan : Plan where
  root := "Book"
  predicate := .not (.exist ⟨1⟩ (.or [.isIn ⟨⟨1⟩, "rank"⟩ [.integer 1, .integer 1],
    .isNull ⟨⟨1⟩, "rank"⟩]))
  joins := [⟨⟨1⟩, "Book", "tags", "Tag", .toMany⟩]
  orderBy := [⟨⟨.root, "id"⟩, .asc, false⟩]
  page := none

def unrankedApartPlan : Plan :=
  { unrankedPlan with
    predicate := .not (.or [.exist ⟨1⟩ (.compare ⟨⟨1⟩, "rank"⟩ .eq (.integer 1)),
      .exist ⟨1⟩ (.isNull ⟨⟨1⟩, "rank"⟩), .exist ⟨1⟩ (.compare ⟨⟨1⟩, "rank"⟩ .eq (.integer 1))]) }

theorem unranked_compiled : (Compiler.mk Sql.Example.schema Sql.Example.config).compile "Book"
    unranked .null none = .ok unrankedPlan := (Compiler.compile_eq ..).trans rfl

theorem unrankedApart_compiled : (Compiler.mk Sql.Example.schema Sql.Example.config).compile "Book"
    unrankedApart .null none = .ok unrankedApartPlan := (Compiler.compile_eq ..).trans rfl

/-- The words "a" and "A". -/
def oneOfBoth : Json := leafNode ["Word", "text"] "in" (.array [.string "a", .string "A", .null])

def eitherOfBoth : Json :=
  .array [.string "or", .array
    ([.string "a", .string "A", .null].map (leafNode ["Word", "text"] "="))]

theorem text_enumerates : Enumerates word ["Word", "text"] "in" "="
    [.string "a", .string "A", .null] where
  length := by decide
  scalar := by
    rintro ⟨r, hr, -⟩
    cases hr
  membership := by decide
  equality := by decide
  full := by decide

def oneOfBothPlan : Plan where
  root := "Word"
  predicate := .or [.isIn ⟨.root, "text"⟩ [.string "a", .string "A"], .isNull ⟨.root, "text"⟩]
  joins := []
  orderBy := [⟨⟨.root, "text"⟩, .asc, true⟩]
  page := none

def eitherOfBothPlan : Plan :=
  { oneOfBothPlan with
    predicate := .or [.compare ⟨.root, "text"⟩ .eq (.string "a"),
      .compare ⟨.root, "text"⟩ .eq (.string "A"), .isNull ⟨.root, "text"⟩] }

end Bookcase

open Store.Bookcase in
theorem ranks_either_way :
    Filter.NodeEnumerated Sql.Example.book unranked unrankedApart ∧
      unrankedApartPlan.joins = unrankedPlan.joins ∧
      (∃ n, library.count Sql.Example.schema unrankedPlan = .ok n ∧
        library.count Sql.Example.schema unrankedApartPlan = .ok n) ∧
      ∃ keys, library.execute Sql.Example.schema unrankedPlan = .ok keys ∧
        library.execute Sql.Example.schema unrankedApartPlan = .ok keys := by
  have consistent := Registry.build_consistent Sql.Example.schema_built
  obtain ⟨_, wf⟩ := Compiler.compile_wellFormed consistent unranked_compiled (by decide)
  obtain ⟨_, wf'⟩ := Compiler.compile_wellFormed consistent unrankedApart_compiled (by decide)
  obtain ⟨keys, h, -⟩ := library_hosts.execute_rows consistent wf rfl
  obtain ⟨keys', h', -⟩ := library_hosts.execute_rows consistent wf' rfl
  have enumerated : Filter.NodeEnumerated Sql.Example.book unranked unrankedApart :=
    .not (.leaf rank_enumerates)
  obtain ⟨-, replaced⟩ :=
    membership_is_disjunction Sql.Example.schema_built book_start .null none
  obtain ⟨-, both⟩ := replaced unranked unrankedApart enumerated
  obtain ⟨joins, key, hkey, answers⟩ :=
    both unrankedPlan unrankedApartPlan unranked_compiled unrankedApart_compiled (by decide)
  cases hkey
  obtain ⟨counted, -, apart⟩ := (answers library).2 keys keys' h h'
  exact ⟨enumerated, joins, counted, keys, h, apart (by decide) ▸ h'⟩

open Store.Bookcase in
/-- Words that differ by case are answered in another order by one search of the keys than by
several. -/
theorem words_answered_as_enumerated :
    Registry.build [word] [] = .ok dictionary ∧
      Filter.NodeEnumerated word oneOfBoth eitherOfBoth ∧
      compiler.compile "Word" oneOfBoth .null none = .ok oneOfBothPlan ∧
      compiler.compile "Word" eitherOfBoth .null none = .ok eitherOfBothPlan ∧
      (words ["a", "A"]).execute dictionary oneOfBothPlan = .ok [.text "A", .text "a"] ∧
      (words ["a", "A"]).execute dictionary eitherOfBothPlan = .ok [.text "a", .text "A"] :=
  ⟨by rfl, .leaf text_enumerates, by rfl, by rfl, by decide +kernel, by decide +kernel⟩

end Store

end FieldSearch
