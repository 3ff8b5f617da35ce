import FieldSearch.Proofs.Store.Operands
import FieldSearch.Proofs.Store.Answer
import FieldSearch.Store.Search

/-!
# Pages of a result

A page is a slice of the result without a page, and the count is the length of that result. The
numbers of a page are cut off twice on their way to the store, at the largest unsigned and at the
largest signed word, which makes no difference to a result that is shorter than that.
-/

namespace FieldSearch

open Sql

/-! ### Slices -/

section Slices

variable {α : Type} {as : List α} {bound : Nat}

theorem drop_min (h : as.length ≤ bound) (n : Nat) : as.drop (min n bound) = as.drop n := by
  rcases Nat.le_total n bound with hn | hn
  · rw [Nat.min_eq_left hn]
  · rw [Nat.min_eq_right hn, List.drop_of_length_le h, List.drop_of_length_le (Nat.le_trans h hn)]

theorem take_min (h : as.length ≤ bound) (n : Nat) : as.take (min n bound) = as.take n := by
  rcases Nat.le_total n bound with hn | hn
  · rw [Nat.min_eq_left hn]
  · rw [Nat.min_eq_right hn, List.take_of_length_le h, List.take_of_length_le (Nat.le_trans h hn)]

/-- Slices of one size that follow each other make up the list as far as they go. -/
theorem flatMap_slices (as : List α) (size n : Nat) :
    (List.range n).flatMap (fun k => (as.drop (k * size)).take size) = as.take (n * size) := by
  induction n with
  | zero => simp
  | succ n ih =>
    rw [List.range_succ, List.flatMap_append, ih, List.flatMap_singleton, Nat.succ_mul,
      List.take_add]

end Slices

/-- The largest signed word. -/
def Sql.largestWord : Nat := Nat.pow 2 63 - 1

namespace Page

/-- The number of rows before a page, page 0 being read as page 1. -/
def before (p : Page) : Nat := (max p.number.toNat 1 - 1) * p.size.toNat

/-- The rows of a list that are on the page. -/
def slice {α : Type} (p : Page) (as : List α) : List α := (as.drop p.before).take p.size.toNat

theorem offset_eq (p : Page) : p.offset = min p.before largestCount := by
  have hmax : max p.number.toNat 1 - 1 = p.number.toNat - 1 := by omega
  rw [offset, before, hmax]

/-- The rows of a list that the store returns for a page, whose numbers stop at the largest signed
word. -/
def cut {α : Type} (p : Page) (as : List α) : List α :=
  (as.drop (min p.offset largestWord)).take (min p.limit largestWord)

/-- The rows of a list that the store returns: those of the page, or all if there is none. -/
def returned {α : Type} (page : Option Page) (as : List α) : List α := page.elim as (·.cut as)

/-- A list that is short enough is cut to the page. -/
theorem cut_eq_slice {α : Type} (p : Page) {as : List α} (few : as.length < largestWord) :
    p.cut as = p.slice as := by
  have hmin : min p.offset largestWord = min p.before largestWord := by
    rw [p.offset_eq, Nat.min_assoc]
    rfl
  have hdrop : (as.drop p.before).length ≤ largestWord := by
    rw [List.length_drop]
    omega
  rw [cut, hmin, drop_min (Nat.le_of_lt few), take_min hdrop, slice, limit]

theorem before_ofNat_succ {k : Nat} (hk : k + 1 < UInt64.size) (size : UInt64) :
    before ⟨.ofNat (k + 1), size⟩ = k * size.toNat := by
  have hnumber : (UInt64.ofNat (k + 1)).toNat = k + 1 := UInt64.toNat_ofNat_of_lt' hk
  rw [before, hnumber, Nat.max_eq_left (Nat.le_add_left 1 k), Nat.add_sub_cancel]

/-- Pages 1 to `n` of one size make up the list as far as they go. -/
theorem flatMap_slice {α : Type} (as : List α) (size : UInt64) {n : Nat} (hn : n < UInt64.size) :
    (List.range n).flatMap (fun k => slice ⟨.ofNat (k + 1), size⟩ as) =
      as.take (n * size.toNat) := by
  have slices : ∀ k ∈ List.range n, slice ⟨.ofNat (k + 1), size⟩ as =
      (as.drop (k * size.toNat)).take size.toNat := by
    intro k hk
    have hlt := List.mem_range.mp hk
    rw [slice, before_ofNat_succ (by omega)]
  rw [List.flatMap_congr slices, flatMap_slices]

end Page

namespace Sql

namespace Value

/-- A count that is given to the store stops at the largest signed word. -/
theorem ofCount_eq (n : Nat) :
    ∃ word : Int64, ofCount n = integer word ∧ word.toInt = min (n : Int) largestWord := by
  have hword : largestWord = 9223372036854775807 := rfl
  have hmax : Int64.maxValue.toInt = largestWord := rfl
  have htoInt : (Int64.ofInt (min (n : Int) largestWord)).toInt = min (n : Int) largestWord :=
    Int64.toInt_ofInt_of_le (by omega) (by omega)
  exact ⟨_, by rw [ofCount, hmax], htoInt⟩

theorem toCount_ofCount (n : Nat) : (ofCount n).toCount = min n largestWord := by
  obtain ⟨word, hcount, hword⟩ := ofCount_eq n
  rw [hcount, toCount, hword]
  omega

/-- No count is a negative limit. -/
theorem limit?_ofCount (n : Nat) : (ofCount n).limit? = some (min n largestWord) := by
  obtain ⟨word, hcount, hword⟩ := ofCount_eq n
  have nonneg : ¬ word.toInt < 0 := by omega
  rw [hcount, limit?, if_neg nonneg, hword]
  congr 1
  omega

end Value

/-! ### The statements of a plan -/

/-- The statement for one page of the rows of another. -/
def Fragment.onPage (f : Fragment) (p : Page) : Fragment :=
  ⟨{ f.select with window := some ⟨f.params.length + 1, f.params.length + 2⟩ },
    f.params ++ [.ofCount p.limit, .ofCount p.offset]⟩

/-- The statement that counts the rows of another. -/
def Fragment.counting (f : Fragment) : Fragment :=
  ⟨{ f.select with output := .count, order := [], window := none }, f.params⟩

/-- The statement returns a column of all rows, and its parameters are those of its condition. -/
structure Fragment.Whole (f : Fragment) (key : ColumnName) : Prop where
  output : f.select.output = .column key
  window : f.select.window = none
  placeholders : f.select.condition.placeholders = List.range' 1 f.params.length

variable {registry : Registry} {plan : Plan} {f : Fragment}

theorem select_whole (h : select registry { plan with page := none } = .ok f) :
    ∃ root, registry.entity? plan.root = some root ∧ f.select.source = ⟨root.table, rootRow⟩ ∧
      f.Whole ⟨rootRow, root.primaryKey⟩ ∧
      (∀ p, select registry { plan with page := some p } = .ok (f.onPage p)) ∧
      ∀ page order,
        count registry { plan with page := page, orderBy := order } = .ok f.counting := by
  obtain ⟨s, c, order, hs, hc, horder, rfl⟩ := select_eq_ok.mp h
  obtain ⟨root, hroot, hbindings⟩ := bind_eq_ok.mp hs
  obtain ⟨bindings, -, hscope⟩ := bind_eq_ok.mp hbindings
  cases hscope
  refine ⟨root, entityNamed_eq_ok.mp hroot, rfl, ⟨rfl, rfl, ?_⟩, fun p => ?_, fun page order' => ?_⟩
  · simp [statementOf, windowValues, condition_placeholders hc, operandValues]
  · refine select_eq_ok.mpr ⟨_, c, order, hs, hc, horder, ?_⟩
    simp [statementOf, windowValues, Fragment.onPage, operandValues]
  · refine count_eq_ok.mpr ⟨_, c, hs, hc, ?_⟩
    simp [statementOf, windowValues, Fragment.counting, operandValues]

/-- The statement of a plan is that of the plan without its page, on the page. -/
theorem select_unpaged (h : select registry plan = .ok f) :
    ∃ whole, select registry { plan with page := none } = .ok whole ∧
      f = plan.page.elim whole whole.onPage := by
  obtain ⟨s, c, order, hs, hc, horder, rfl⟩ := select_eq_ok.mp h
  refine ⟨_, select_eq_ok.mpr ⟨s, c, order, hs, hc, horder, rfl⟩, ?_⟩
  cases hpage : plan.page with
  | none => simp [statementOf, windowValues, hpage, operandValues]
  | some p => simp [statementOf, windowValues, Fragment.onPage, hpage, operandValues]

end Sql

namespace Store

variable {s : Store} {params : List Value}

/-! ### The rows that are found -/

theorem filter_sublist {conditions : List Condition} {rows found : List Frames}
    (h : s.filter params conditions rows = .ok found) : found.Sublist rows := by
  induction rows generalizing found with
  | nil => cases h; exact .slnil
  | cons fs rest ih =>
    obtain ⟨b, others, -, hothers, rfl⟩ := filter_cons_eq_ok.mp h
    cases b with
    | true => exact (ih hothers).cons_cons fs
    | false => exact (ih hothers).cons fs

/-- Rows that are visited in another order are found in another order. -/
theorem filter_perm {conditions : List Condition} {rows rows' : List Frames}
    (perm : rows.Perm rows') {found : List Frames}
    (h : s.filter params conditions rows = .ok found) :
    ∃ found', s.filter params conditions rows' = .ok found' ∧ found.Perm found' := by
  induction perm generalizing found with
  | nil => exact ⟨found, h, .refl _⟩
  | cons fs _ ih =>
    obtain ⟨b, others, hb, hothers, rfl⟩ := filter_cons_eq_ok.mp h
    obtain ⟨others', hothers', perm⟩ := ih hothers
    refine ⟨_, filter_cons_eq_ok.mpr ⟨b, others', hb, hothers', rfl⟩, ?_⟩
    cases b with
    | true => exact perm.cons fs
    | false => exact perm
  | swap fs gs rest =>
    obtain ⟨b, others, hb, hothers, rfl⟩ := filter_cons_eq_ok.mp h
    obtain ⟨c, found, hc, hfound, rfl⟩ := filter_cons_eq_ok.mp hothers
    refine ⟨_, filter_cons_eq_ok.mpr ⟨c, _, hc, filter_cons_eq_ok.mpr ⟨b, found, hb, hfound, rfl⟩,
      rfl⟩, ?_⟩
    cases b with
    | false => exact .refl _
    | true =>
      cases c with
      | false => exact .refl _
      | true => exact .swap fs gs found
  | trans _ _ ih ih' =>
    obtain ⟨mid, hmid, perm⟩ := ih h
    obtain ⟨found', hfound', perm'⟩ := ih' hmid
    exact ⟨found', hfound', perm.trans perm'⟩

theorem find_length_le {t : Table} {f : Fragment} {rows : List Frames}
    (h : s.find t f = .ok rows) : rows.length ≤ t.rows.length := by
  have hle := (filter_sublist h).length_le
  rwa [List.length_map, (visited_perm s t f.params f.select).length_eq] at hle

theorem hasNul_append (a b : String) : hasNul (a ++ b) = (hasNul a || hasNul b) := by
  simp [hasNul, String.toList_append]

theorem hasNul_placeholder (n : Nat) : hasNul (placeholder n) = false := by
  rw [hasNul_eq_false, Token.placeholder_toList, List.mem_cons]
  rintro (h | h)
  · cases h
  · have hdigit := Nat.isDigit_of_mem_toDigits (by decide) (by decide) h
    cases hdigit

theorem Accepts.onPage {key : ColumnName} {t : Table} {f : Fragment} (h : s.Accepts t f)
    (whole : f.Whole key) (p : Page) : s.Accepts t (f.onPage p) := by
  have htext : (f.onPage p).text =
      f.text ++ Window.text ⟨f.params.length + 1, f.params.length + 2⟩ := by
    simp [Fragment.text, Select.text, Fragment.onPage, whole.window]
  refine ⟨h.table, ?_, h.bound⟩
  rw [htext, hasNul_append, h.legible, Window.text]
  simp only [hasNul_append, hasNul_placeholder]
  decide

theorem Accepts.counting {t : Table} {f : Fragment} (h : s.Accepts t f) :
    s.Accepts t f.counting := by
  have hlegible := h.legible
  have hbound := h.bound
  simp only [Fragment.text, Select.text, hasNul_append, Bool.or_eq_false_iff] at hlegible
  simp only [isBound, Bool.and_eq_true] at hbound
  obtain ⟨⟨⟨⟨⟨-, hsource⟩, hwhere⟩, hcondition⟩, -⟩, -⟩ := hlegible
  refine ⟨h.table, ?_, ?_⟩
  · simp only [Fragment.text, Fragment.counting, Select.text, hasNul_append, hsource, hcondition]
    decide
  · simp only [isBound, Fragment.counting, Output.columns, List.map_nil, List.append_nil,
      List.all_nil, Bool.and_true]
    exact hbound.1

/-- The numbers of a page do not change what is found. -/
theorem find_onPage {key : ColumnName} {f : Fragment} (whole : f.Whole key) (t : Table)
    (p : Page) : s.find t (f.onPage p) = s.find t f := by
  have same : SameAt (f.onPage p).params f.params f.select.condition.placeholders := by
    rw [whole.placeholders]
    exact sameAt_append f.params _
  have hconjunct : ∀ part ∈ f.select.condition.conjuncts,
      SameAt (f.onPage p).params f.params part.placeholders :=
    fun part h => same.mono (Condition.conjunct_placeholders h)
  have hvisited : s.visited t (f.onPage p).params (f.onPage p).select =
      s.visited t f.params f.select := by
    apply visited_congr t (Condition.finder?_congr _ same)
    intro part hpart c hc
    exact c.evalsTo_congr ((hconjunct part hpart).mono (Condition.disjunct_placeholders hc)) true
  have harranged : (f.onPage p).select.condition.arranged (f.onPage p).params
      (t.isKey (f.onPage p).select.source.row) =
      f.select.condition.arranged f.params (t.isKey f.select.source.row) :=
    Condition.arranged_congr _ same
  rw [find, find, hvisited, harranged]
  apply filter_congr
  intro c hc
  exact c.evalsTo_congr (hconjunct c ((Condition.arranged_perm _ _ _).mem_iff.mp hc)) true

/-- Counting may visit the rows in another order, but finds as many. -/
theorem find_counting {t : Table} {f : Fragment} {rows : List Frames}
    (h : s.find t f = .ok rows) : ∃ rows', s.find t f.counting = .ok rows' ∧ rows.Perm rows' := by
  have perm : (s.visited t f.params f.select).Perm (s.visited t f.params f.counting.select) :=
    (visited_perm s t f.params f.select).trans (visited_perm s t f.params f.counting.select).symm
  exact filter_perm (perm.map (framesOf t f.select)) h

/-! ### What is returned -/

theorem length_result {key : ColumnName} {f : Fragment} (whole : f.Whole key)
    (rows : List Frames) : (result f.params f.select rows).length = rows.length := by
  simp only [result, whole.output, whole.window, Option.elim_none, List.length_map, length_sortBy]

/-- The window of a page cuts out the page. -/
theorem window_onPage {α : Type} (f : Fragment) (p : Page) (as : List α) :
    Window.slice ⟨f.params.length + 1, f.params.length + 2⟩ (f.onPage p).params as = p.cut as := by
  have hlimit : operand (f.onPage p).params (f.params.length + 1) = .ofCount p.limit := by
    simp [operand, Fragment.onPage]
  have hoffset : operand (f.onPage p).params (f.params.length + 2) = .ofCount p.offset := by
    simp [operand, Fragment.onPage]
  rw [Window.slice, hlimit, hoffset, Value.toCount_ofCount, Value.limit?_ofCount, Page.cut]
  rfl

theorem result_onPage {key : ColumnName} {f : Fragment} (whole : f.Whole key) (p : Page)
    (rows : List Frames) :
    result (f.onPage p).params (f.onPage p).select rows =
      p.cut (result f.params f.select rows) := by
  have houtput : (f.onPage p).select.output = .column key := whole.output
  have hwindow : (f.onPage p).select.window =
      some ⟨f.params.length + 1, f.params.length + 2⟩ := rfl
  have horder : (f.onPage p).select.order = f.select.order := rfl
  have hcut := window_onPage f p (sortBy (fun a b => cmpRows f.select.order a b != .gt) rows)
  simp only [result, houtput, hwindow, horder, whole.output, whole.window, Option.elim_some,
    Option.elim_none, hcut, Page.cut, List.map_take, List.map_drop]

/-- Running a statement, on a page or not, finds the rows of the statement without a page. -/
theorem run_paged {key : ColumnName} {f : Fragment} (whole : f.Whole key) (page : Option Page)
    {values : List Value} (h : s.run (page.elim f f.onPage) = .ok values) :
    ∃ t rows, s.table? f.select.source.table = some t ∧ s.find t f = .ok rows ∧
      values = Page.returned page (result f.params f.select rows) ∧
      s.run f.counting = .ok [.ofCount rows.length] := by
  have found : ∃ t rows, s.Accepts t f.counting ∧ s.find t f = .ok rows ∧
      values = Page.returned page (result f.params f.select rows) := by
    cases page with
    | none =>
      obtain ⟨t, rows, accepts, hrows, rfl⟩ := run_eq_ok.mp h
      exact ⟨t, rows, accepts.counting, hrows, rfl⟩
    | some p =>
      obtain ⟨t, rows, accepts, hrows, rfl⟩ := run_eq_ok.mp h
      have counting := accepts.counting
      refine ⟨t, rows, ⟨counting.table, counting.legible, counting.bound⟩, ?_, ?_⟩
      · exact (find_onPage whole t p).symm.trans hrows
      · exact result_onPage whole p rows
  obtain ⟨t, rows, accepts, hrows, hvalues⟩ := found
  obtain ⟨counted, hcounted, perm⟩ := find_counting hrows
  refine ⟨t, rows, accepts.table, hrows, hvalues, ?_⟩
  refine run_eq_ok.mpr ⟨t, counted, accepts, hcounted, ?_⟩
  rw [perm.length_eq]
  rfl

section Run

variable {key : ColumnName} {f : Fragment} (whole : f.Whole key) {all : List Value}
  (few : ∀ t, s.table? f.select.source.table = some t → t.rows.length < largestWord)
  (h : s.run f = .ok all)

include whole h

theorem run_counting : s.run f.counting = .ok [.ofCount all.length] := by
  obtain ⟨t, rows, -, -, rfl, hcount⟩ := run_paged whole none h
  rw [Page.returned, Option.elim_none, length_result whole]
  exact hcount

include few

theorem run_length_lt : all.length < largestWord := by
  obtain ⟨t, rows, accepts, hrows, rfl⟩ := run_eq_ok.mp h
  rw [length_result whole]
  exact Nat.lt_of_le_of_lt (find_length_le hrows) (few t accepts.table)

theorem run_onPage (p : Page) : s.run (f.onPage p) = .ok (p.slice all) := by
  have short := run_length_lt whole few h
  obtain ⟨t, rows, accepts, hrows, rfl⟩ := run_eq_ok.mp h
  refine run_eq_ok.mpr ⟨t, rows, accepts.onPage whole p, (find_onPage whole t p).trans hrows, ?_⟩
  rw [result_onPage whole p rows, p.cut_eq_slice short]

end Run

/-! ### Executing plans -/

variable {st : Store} {registry : Registry} {plan : Plan}

/-- If a plan can be executed without a page, it can on every page. A page is a slice of the whole
result, in numbers without bounds, pages 1 to `n` of one size make up the result as far as they go,
and the count is its length, whatever the page and the order. -/
theorem pages_cut_result {all : List Value}
    (few : ∀ root, registry.entity? plan.root = some root →
      (st.records root.table).length < Nat.pow 2 63 - 1)
    (whole : st.execute registry { plan with page := none } = .ok all) :
    (∀ p : Page, st.execute registry { plan with page := some p } =
      .ok ((all.drop ((max p.number.toNat 1 - 1) * p.size.toNat)).take p.size.toNat)) ∧
    (∀ (size : UInt64) (n : Nat), n < UInt64.size → ∃ pages,
      (List.range n).mapM (fun k =>
        st.execute registry { plan with page := some ⟨.ofNat (k + 1), size⟩ }) = .ok pages ∧
      pages.flatten = all.take (n * size.toNat) ∧
      (1 ≤ size → all.length ≤ n → pages.flatten = all)) ∧
    (∀ (page : Option Page) (order : List OrderTerm),
      st.count registry { plan with page := page, orderBy := order } = .ok all.length) ∧
    all.length < Nat.pow 2 63 - 1 := by
  obtain ⟨f, hf, hall⟩ := execute_eq_ok.mp whole
  obtain ⟨root, hroot, hsource, isWhole, hpage, hcount⟩ := select_whole hf
  have short : ∀ t, st.table? f.select.source.table = some t → t.rows.length < largestWord := by
    intro t ht
    rw [hsource] at ht
    have hfew := few root hroot
    rwa [records, ht, Option.map_some, Option.getD_some, Table.records, List.length_map] at hfew
  have slices : ∀ p : Page,
      st.execute registry { plan with page := some p } = .ok (p.slice all) := fun p =>
    execute_eq_ok.mpr ⟨f.onPage p, hpage p, run_onPage isWhole short hall p⟩
  have hlength := run_length_lt isWhole short hall
  refine ⟨slices, fun size n hn => ?_, fun page order => ?_, hlength⟩
  · have hconcat := Page.flatMap_slice all size hn
    refine ⟨(List.range n).map fun k => Page.slice ⟨.ofNat (k + 1), size⟩ all, ?_, hconcat,
      fun hsize hn => ?_⟩
    · rw [mapM_eq_ok, List.forall₂_map_right_iff, List.forall₂_same]
      exact fun k _ => slices _
    · refine hconcat.trans (List.take_of_length_le ?_)
      calc all.length
        _ ≤ n * 1 := by omega
        _ ≤ n * size.toNat := Nat.mul_le_mul_left n (UInt64.le_iff_toNat_le.mp hsize)
  · rw [count_of_run (hcount page order) (run_counting isWhole hall), Value.toCount_ofCount,
      Nat.min_eq_left (Nat.le_of_lt hlength)]

namespace Bookcase

/-- All books, whatever is known of them. -/
def books : Plan := { Sql.Example.plan with predicate := .isNotNull ⟨.root, "id"⟩ }

def bookKeys : List Value := [number 1, number 2]

theorem books_whole :
    library.execute Sql.Example.schema { books with page := none } = .ok bookKeys := by
  rfl

end Bookcase

open Bookcase in
theorem sample_pages :
    library.execute Sql.Example.schema { books with page := none } = .ok bookKeys ∧
      library.execute Sql.Example.schema { books with page := some ⟨2, 1⟩ } = .ok [number 2] ∧
      library.execute Sql.Example.schema
        { books with page := some ⟨0, .ofNat (UInt64.size - 1)⟩ } = .ok bookKeys ∧
      library.count Sql.Example.schema
        { books with page := some ⟨2, 1⟩, orderBy := [] } = .ok 2 := by
  have few : ∀ root, Sql.Example.schema.entity? books.root = some root →
      (library.records root.table).length < Nat.pow 2 63 - 1 := by
    rintro root hroot
    cases hroot
    decide
  obtain ⟨hslice, -, hcount, -⟩ := pages_cut_result few books_whole
  exact ⟨books_whole, hslice ⟨2, 1⟩, hslice ⟨0, _⟩, hcount (some ⟨2, 1⟩) []⟩

end Store

end FieldSearch
