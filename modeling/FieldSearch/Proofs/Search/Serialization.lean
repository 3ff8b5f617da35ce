import FieldSearch.Proofs.Calendar.Reading
import FieldSearch.Proofs.Json.Words
import FieldSearch.Proofs.Schema.Document
import FieldSearch.Proofs.Search.Lowering
import FieldSearch.Search.Plan

/-!
# Plans in JSON

Whatever a plan consists of is read back from what it is written as, in whatever order the members
of objects stand. The nesting of the JSON value is enough to read the predicate in it.
-/

namespace FieldSearch

open Json (Arrangement Distinct)

variable {f : Json → Json} (arr : Arrangement f)

/-! ### Names -/

theorem Comparison.ofName?_name (comparison : Comparison) :
    ofName? comparison.name = some comparison := by
  cases comparison <;> rfl

theorem SortDirection.ofName?_name (direction : SortDirection) :
    ofName? direction.name = some direction := by
  cases direction <;> rfl

include arr

/-! ### Records -/

theorem Occurrence.ofJson?_toJson (o : Occurrence) : ofJson? (f o.toJson) = some o := by
  have hword : (f o.toJson).uint32? = some o.id := by
    rw [toJson, Json.ofNat, arr.int]
    exact Json.uint32?_eq_some.mpr rfl
  rw [ofJson?, hword, Option.map_some]

theorem Column.ofJson?_toJson (c : Column) : ofJson? (f c.toJson) = some c := by
  have distinct : Distinct [("alias", c.occurrence.toJson), ("attribute", .string c.name)] := by
    simp [Distinct]
  have hfields : (f c.toJson).fields? ["alias", "attribute"] =
      some [some (f c.occurrence.toJson), some (f (.string c.name))] :=
    arr.fields?_keys distinct
  simp [ofJson?, hfields, Json.required?, Occurrence.ofJson?_toJson arr, arr.string, Json.string?]

theorem JoinEntry.ofJson?_toJson (e : JoinEntry) : ofJson? (f e.toJson) = some e := by
  have hfields : (f e.toJson).fields?
      ["alias", "sourceEntity", "relationName", "targetEntity", "cardinality"] =
      some [some (f e.occurrence.toJson), some (f (.string e.source)),
        some (f (.string e.relation)), some (f (.string e.target)),
        some (f (.string e.cardinality.name))] :=
    arr.fields?_keys (by simp [Distinct])
  simp [ofJson?, hfields, Json.required?, Occurrence.ofJson?_toJson arr, arr.string, Json.string?,
    cardinalityOfJson?, Json.name?, Cardinality.ofName?_name]

theorem OrderTerm.ofJson?_toJson (t : OrderTerm) : ofJson? (f t.toJson) = some t := by
  have hfields : (f t.toJson).fields? ["column", "direction", "caseInsensitive"] =
      some [some (f t.column.toJson), some (f (.string t.direction.name)),
        some (f (.bool t.caseInsensitive))] :=
    arr.fields?_keys (by simp [Distinct])
  simp [ofJson?, hfields, Json.required?, Column.ofJson?_toJson arr, arr.string, arr.bool,
    Json.bool?, SortDirection.ofJson?, Json.name?, SortDirection.ofName?_name]

theorem Page.ofJson?_toJson (p : Page) : ofJson? (f p.toJson) = some p := by
  have hfields : (f p.toJson).fields? ["page", "itemsPerPage"] =
      some [some (f (Json.ofNat p.number.toNat)), some (f (Json.ofNat p.size.toNat))] :=
    arr.fields?_keys (by simp [Distinct])
  have hword : ∀ w : UInt64, (f (Json.ofNat w.toNat)).uint64? = some w := by
    intro w
    rw [Json.ofNat, arr.int]
    exact Json.uint64?_eq_some.mpr rfl
  simp [ofJson?, hfields, Json.required?, hword]

/-! ### Values -/

theorem Scalar.ofJson?_tagged (type : ScalarType) (value : Json) :
    ofJson? (f (tagged type value)) = ofTyped? type (f value) := by
  have distinct : Distinct [("type", .string type.name), ("value", value)] := by simp [Distinct]
  obtain ⟨members, heq, hfield⟩ := arr.exists_members distinct
  have htype : Json.field? members "type" = some (some (.string type.name)) := by
    rw [hfield]
    simp [Json.field?, arr.string]
  have hvalue : Json.field? members "value" = some (some (f value)) := by
    rw [hfield]
    simp [Json.field?]
  have hname : type.name ≠ "null" := by cases type <;> decide
  simp [tagged, heq, ofJson?, htype, hvalue, Json.required?, Json.name?, ofTag?, hname,
    ScalarType.ofName?_name]

/-- A value is read back with its type, and null without one. -/
theorem Scalar.ofJson?_toJson (v : Scalar) : ofJson? (f v.toJson) = some v := by
  cases v with
  | null =>
    have distinct : Distinct [("type", .string "null")] := by simp [Distinct]
    obtain ⟨members, heq, hfield⟩ := arr.exists_members distinct
    have htype : Json.field? members "type" = some (some (.string "null")) := by
      rw [hfield]
      simp [Json.field?, arr.string]
    have hvalue : Json.field? members "value" = some none := by
      rw [hfield]
      simp [Json.field?]
    simp [toJson, heq, ofJson?, htype, hvalue, Json.required?, Json.name?, ofTag?]
  | integer n =>
    rw [toJson, ofJson?_tagged arr, arr.int, ofTyped?, Json.int64?_eq_some.mpr rfl]
    rfl
  | float x =>
    rw [toJson, ofJson?_tagged arr, arr.float]
    rfl
  | string s =>
    rw [toJson, ofJson?_tagged arr, arr.string]
    rfl
  | boolean b =>
    rw [toJson, ofJson?_tagged arr, arr.bool]
    rfl
  | date d =>
    rw [toJson, ofJson?_tagged arr, arr.string]
    simp [ofTyped?, Json.string?, Date.ofDocument?_text]
  | datetime t =>
    rw [toJson, ofJson?_tagged arr, arr.string]
    simp [ofTyped?, Json.string?, Datetime.ofDocument?_text]

/-! ### Predicates -/

namespace Predicate

/-- A predicate is split into its `op` and the fields beside it, which are nested less deeply. -/
theorem splitOp?_tagged (op : String) {members : List (String × Json)}
    (distinct : Distinct (("op", .string op) :: members)) {nesting : Nat}
    (enough : (f (tagged op members)).depth ≤ nesting) :
    ∃ n body, nesting = n + 1 ∧ splitOp? (f (tagged op members)) = some (op, body) ∧
      body.fields? (members.map (·.1)) = some (members.map fun m => some (f m.2)) ∧
      ∀ key value, (key, value) ∈ members → (f value).depth ≤ n := by
  obtain ⟨absent, others⟩ : "op" ∉ members.map (·.1) ∧ Distinct members :=
    List.nodup_cons.mp distinct
  obtain ⟨members', heq, perm⟩ := arr.object _ distinct
  have hop : Json.field? members' "op" = some (some (.string op)) := by
    rw [Json.field?_arranged distinct perm]
    have hnone : members.filter (·.1 == "op") = [] := by
      rw [List.filter_eq_nil_iff]
      intro member hmember hkey
      exact absent (beq_iff_eq.mp hkey ▸ List.mem_map_of_mem hmember)
    simp [Json.field?, hnone, arr.string]
  -- `op` stands once, so without it the other members are left, in some order
  have hrest : (members'.filter (·.1 != "op")).Perm (members.map (Prod.map id f)) := by
    have hfilter := perm.filter (·.1 != "op")
    have hall : (members.map (Prod.map id f)).filter (·.1 != "op") =
        members.map (Prod.map id f) := by
      rw [List.filter_eq_self]
      simp only [List.forall_mem_map]
      intro member hmember
      have hne : member.1 ≠ "op" := fun h => absent (h ▸ List.mem_map_of_mem hmember)
      simpa using hne
    rw [List.map_cons, List.filter_cons_of_neg (by simp), hall] at hfilter
    exact hfilter
  have hdepth : ∀ key value, (key, value) ∈ ("op", Json.string op) :: members →
      (f value).depth < nesting := fun _ _ h =>
    Nat.lt_of_lt_of_le (arr.depth_lt_object distinct h) enough
  have hpos := hdepth "op" (.string op) List.mem_cons_self
  obtain ⟨n, rfl⟩ : ∃ n, nesting = n + 1 := ⟨nesting - 1, by omega⟩
  refine ⟨n, .object (members'.filter (·.1 != "op")), rfl, ?_, ?_, ?_⟩
  · rw [tagged, heq, splitOp?, hop]
    rfl
  · rw [Json.fields?_arranged others hrest, Json.fields?_keys others, Option.map_some, List.map_map]
    rfl
  · intro key value h
    exact Nat.le_of_lt_succ (hdepth key value (List.mem_cons_of_mem _ h))

omit arr in
theorem toJsons_eq (parts : List Predicate) : toJsons parts = parts.map toJson := by
  induction parts with
  | nil => rfl
  | cons part rest ih => rw [toJsons, ih, List.map_cons]

/-- A predicate is read back wherever the nesting that is allowed for is not exceeded. -/
theorem read?_toJson (p : Predicate) {nesting : Nat} (enough : (f p.toJson).depth ≤ nesting) :
    read? nesting (f p.toJson) = some p := by
  have all : ∀ {parts : List Predicate} {n : Nat},
      (∀ part ∈ parts, ∀ {n}, (f part.toJson).depth ≤ n → read? n (f part.toJson) = some part) →
      (f (.array (parts.map toJson))).depth ≤ n →
      Json.list? (read? n) (f (.array (parts.map toJson))) = some parts := by
    intro parts n each enough
    refine arr.list?_eq fun part hpart => each part hpart ?_
    have hdepth := arr.depth_lt_array (List.mem_map_of_mem (f := toJson) hpart)
    exact Nat.le_of_lt (Nat.lt_of_lt_of_le hdepth enough)
  -- the parts are nested less deeply than the whole, so what is allowed for changes with them
  induction p using Predicate.induct generalizing nesting with
  | compare c comparison v =>
    rw [toJson] at enough ⊢
    obtain ⟨n, body, rfl, hsplit, hfields, -⟩ :=
      splitOp?_tagged arr "compare" (by simp [Distinct]) enough
    simp only [List.map_cons, List.map_nil] at hfields
    simp [read?, hsplit, hfields, Json.required?,
      Column.ofJson?_toJson arr, arr.string, Comparison.ofJson?, Json.name?,
      Comparison.ofName?_name, Scalar.ofJson?_toJson arr]
  | isIn c vs =>
    rw [toJson] at enough ⊢
    obtain ⟨n, body, rfl, hsplit, hfields, -⟩ :=
      splitOp?_tagged arr "in" (by simp [Distinct]) enough
    simp only [List.map_cons, List.map_nil] at hfields
    have hvalues : Json.list? Scalar.ofJson? (f (.array (vs.map Scalar.toJson))) = some vs :=
      arr.list?_eq fun v _ => Scalar.ofJson?_toJson arr v
    simp [read?, hsplit, hfields, Json.required?,
      Column.ofJson?_toJson arr, hvalues]
  | isNull c =>
    rw [toJson] at enough ⊢
    obtain ⟨n, body, rfl, hsplit, hfields, -⟩ :=
      splitOp?_tagged arr "isNull" (by simp [Distinct]) enough
    simp only [List.map_cons, List.map_nil] at hfields
    simp [read?, hsplit, hfields, Json.required?,
      Column.ofJson?_toJson arr]
  | isNotNull c =>
    rw [toJson] at enough ⊢
    obtain ⟨n, body, rfl, hsplit, hfields, -⟩ :=
      splitOp?_tagged arr "isNotNull" (by simp [Distinct]) enough
    simp only [List.map_cons, List.map_nil] at hfields
    simp [read?, hsplit, hfields, Json.required?,
      Column.ofJson?_toJson arr]
  | exist o inner ih =>
    rw [toJson] at enough ⊢
    obtain ⟨n, body, rfl, hsplit, hfields, inside⟩ :=
      splitOp?_tagged arr "exists" (by simp [Distinct]) enough
    simp only [List.map_cons, List.map_nil] at hfields
    have hinner := ih (inside "predicate" inner.toJson (by simp))
    simp [read?, hsplit, hfields, Json.required?,
      Occurrence.ofJson?_toJson arr, hinner]
  | related o present =>
    rw [toJson] at enough ⊢
    obtain ⟨n, body, rfl, hsplit, hfields, -⟩ :=
      splitOp?_tagged arr "related" (by simp [Distinct]) enough
    simp only [List.map_cons, List.map_nil] at hfields
    simp [read?, hsplit, hfields, Json.required?,
      Occurrence.ofJson?_toJson arr, arr.bool, Json.bool?]
  | not inner ih =>
    rw [toJson] at enough ⊢
    obtain ⟨n, body, rfl, hsplit, hfields, inside⟩ :=
      splitOp?_tagged arr "not" (by simp [Distinct]) enough
    simp only [List.map_cons, List.map_nil] at hfields
    have hinner := ih (inside "predicate" inner.toJson (by simp))
    simp [read?, hsplit, hfields, Json.required?, hinner]
  | and parts ih =>
    rw [toJson, toJsons_eq] at enough ⊢
    obtain ⟨n, body, rfl, hsplit, hfields, inside⟩ :=
      splitOp?_tagged arr "and" (by simp [Distinct]) enough
    simp only [List.map_cons, List.map_nil] at hfields
    have hparts := all ih (inside "predicates" (.array (parts.map toJson)) (by simp))
    simp [read?, hsplit, hfields, Json.required?, hparts]
  | or parts ih =>
    rw [toJson, toJsons_eq] at enough ⊢
    obtain ⟨n, body, rfl, hsplit, hfields, inside⟩ :=
      splitOp?_tagged arr "or" (by simp [Distinct]) enough
    simp only [List.map_cons, List.map_nil] at hfields
    have hparts := all ih (inside "predicates" (.array (parts.map toJson)) (by simp))
    simp [read?, hsplit, hfields, Json.required?, hparts]

theorem ofJson?_toJson (p : Predicate) : ofJson? (f p.toJson) = some p :=
  read?_toJson arr p (Nat.le_refl _)

end Predicate

/-! ### Plans -/

/-- A plan is read back from what it is written as, however its members are arranged. -/
theorem Plan.ofJson?_arranged (p : Plan) : ofJson? (f p.toJson) = some p := by
  have hfields : (f p.toJson).fields?
      ["rootEntity", "predicate", "joins", "orderBy", "pagination"] =
      some [some (f (.string p.root)), some (f p.predicate.toJson),
        some (f (.array (p.joins.map JoinEntry.toJson))),
        some (f (.array (p.orderBy.map OrderTerm.toJson))), p.page.map (f ∘ Page.toJson)] := by
    rw [toJson]
    cases p.page with
    | none =>
      rw [arr.fields?_eq (by simp [Distinct])]
      simp [Json.fields?, Json.field?]
    | some page =>
      rw [arr.fields?_eq (by simp [Distinct])]
      simp [Json.fields?, Json.field?]
  have hjoins : Json.list? JoinEntry.ofJson? (f (.array (p.joins.map JoinEntry.toJson))) =
      some p.joins := arr.list?_eq fun e _ => JoinEntry.ofJson?_toJson arr e
  have horder : Json.list? OrderTerm.ofJson? (f (.array (p.orderBy.map OrderTerm.toJson))) =
      some p.orderBy := arr.list?_eq fun t _ => OrderTerm.ofJson?_toJson arr t
  have hpage : Json.option? Page.ofJson? (p.page.map (f ∘ Page.toJson)) = some p.page :=
    Json.option?_map rfl (Page.ofJson?_toJson arr) p.page
  simp [ofJson?, hfields, Json.required?, arr.string, Json.string?,
    Predicate.ofJson?_toJson arr, hjoins, horder, hpage]

omit arr in
/-- A plan survives its way through JSON, whether the members of its objects stay in the order in
which they are written or are put in canonical order. -/
theorem plan_survives_json (p : Plan) :
    Plan.ofJson? p.toJson = some p ∧ Plan.ofJson? p.toJson.canonical = some p :=
  ⟨Plan.ofJson?_arranged Json.arrangement_id p, Plan.ofJson?_arranged Json.arrangement_canonical p⟩

end FieldSearch
