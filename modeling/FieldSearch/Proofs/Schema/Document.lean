import FieldSearch.Proofs.Json.Text
import FieldSearch.Proofs.Schema.Acceptance
import FieldSearch.Schema.Document
import FieldSearch.Search.Compile

/-!
# Schemas in documents

What a document consists of is read back from what it is written as, in whatever order the members
of objects stand. A registry is in order already, so that building one from its own definitions
changes nothing.
-/

namespace FieldSearch

open Json (Arrangement Distinct Numberless)

/-! ### Reading back -/

theorem ScalarType.ofName?_name (type : ScalarType) : ofName? type.name = some type := by
  cases type <;> rfl

theorem Cardinality.ofName?_name (cardinality : Cardinality) :
    ofName? cardinality.name = some cardinality := by
  cases cardinality <;> rfl

section ReadBack

variable {f : Json → Json} (arr : Arrangement f)

include arr

theorem Attribute.ofJson?_toJson (a : Attribute) : ofJson? (f a.toJson) = some a := by
  have hfields : (f a.toJson).fields? ["name", "type"] =
      some [some (f (.string a.name)), some (f (.string a.type.name))] :=
    arr.fields?_keys (by simp [Distinct])
  simp [ofJson?, hfields, Json.required?, arr.string, Json.string?, ScalarType.ofJson?,
    Json.name?, ScalarType.ofName?_name]

theorem JoinKey.columnOfJson?_object (column : String) :
    columnOfJson? (f (.object [("column", .string column)])) = some column := by
  have hfields : (f (.object [("column", .string column)])).fields? ["column"] =
      some [some (f (.string column))] :=
    arr.fields?_keys (by simp [Distinct])
  simp [columnOfJson?, hfields, Json.required?, arr.string, Json.string?]

/-- The one member of what is written tells where the relation is stored. -/
theorem JoinKey.ofJson?_toJson (key : JoinKey) : ofJson? (f key.toJson) = some key := by
  cases key with
  | foreignKey column =>
    rw [toJson, arr.object_singleton, ofJson?, if_pos rfl, columnOfJson?_object arr]
    rfl
  | reverse column =>
    rw [toJson, arr.object_singleton, ofJson?, if_neg (by decide), if_pos rfl,
      columnOfJson?_object arr]
    rfl
  | association table sourceColumn targetColumn =>
    rw [toJson, arr.object_singleton, ofJson?, if_neg (by decide), if_neg (by decide), if_pos rfl]
    have hfields : (f (.object [("table", .string table),
        ("sourceColumn", .string sourceColumn), ("targetColumn", .string targetColumn)])).fields?
          ["table", "sourceColumn", "targetColumn"] =
        some [some (f (.string table)), some (f (.string sourceColumn)),
          some (f (.string targetColumn))] :=
      arr.fields?_keys (by simp [Distinct])
    simp [associationOfJson?, hfields, Json.required?, arr.string, Json.string?]

theorem Relation.ofJson?_toJson (r : Relation) : ofJson? (f r.toJson) = some r := by
  have hfields : (f r.toJson).fields?
      ["name", "kind", "target", "defaultTraversal", "defaultAlias", "join"] =
      some [some (f (.string r.name)), some (f (.string r.cardinality.name)),
        some (f (.string r.target)), some (f (.bool r.isDefault)),
        r.defaultAlias.map (f ∘ .string), some (f r.join.toJson)] := by
    rw [toJson, summaryMembers]
    cases r.defaultAlias with
    | none =>
      rw [arr.fields?_eq (by simp [Distinct, optionalMember])]
      simp [Json.fields?, Json.field?, optionalMember]
    | some name =>
      rw [arr.fields?_eq (by simp [Distinct, optionalMember])]
      simp [Json.fields?, Json.field?, optionalMember]
  have halias : Json.option? Json.string? (r.defaultAlias.map (f ∘ .string)) =
      some r.defaultAlias := by
    refine Json.option?_map rfl (fun name => ?_) r.defaultAlias
    rw [Function.comp_apply, arr.string, Json.string?]
  simp [ofJson?, hfields, halias, Json.required?, Json.default?, arr.string, arr.bool,
    Json.string?, Json.bool?, Cardinality.ofJson?, Json.name?, Cardinality.ofName?_name,
    JoinKey.ofJson?_toJson arr]

theorem Entity.ofJson?_toJson (e : Entity) : ofJson? (f e.toJson) = some e := by
  have hfields : (f e.toJson).fields?
      ["name", "table", "primaryKey", "searchable", "attributes", "relations"] =
      some [some (f (.string e.name)), some (f (.string e.table)),
        some (f (.string e.primaryKey)), some (f (.bool e.searchable)),
        some (f (.array (e.attributes.map Attribute.toJson))),
        some (f (.array (e.relations.map Relation.toJson)))] :=
    arr.fields?_keys (by simp [Distinct])
  have hattributes : Json.list? Attribute.ofJson?
      (f (.array (e.attributes.map Attribute.toJson))) = some e.attributes :=
    arr.list?_eq fun a _ => Attribute.ofJson?_toJson arr a
  have hrelations : Json.list? Relation.ofJson? (f (.array (e.relations.map Relation.toJson))) =
      some e.relations :=
    arr.list?_eq fun r _ => Relation.ofJson?_toJson arr r
  simp [ofJson?, hfields, hattributes, hrelations, Json.required?, Json.default?, arr.string,
    arr.bool, Json.string?, Json.bool?]

/-- No list of attributes is not written, and an empty list is. -/
theorem EntityAlias.ofJson?_toJson (a : EntityAlias) : ofJson? (f a.toJson) = some a := by
  have hfields : (f a.toJson).fields? ["name", "entity", "attributes"] =
      some [some (f (.string a.name)), some (f (.string a.entity)),
        a.attributes.map (f ∘ Json.strings)] := by
    rw [toJson]
    cases a.attributes with
    | none =>
      rw [arr.fields?_eq (by simp [Distinct, optionalMember])]
      simp [Json.fields?, Json.field?, optionalMember]
    | some names =>
      rw [arr.fields?_eq (by simp [Distinct, optionalMember])]
      simp [Json.fields?, Json.field?, optionalMember]
  have hattributes : Json.option? (Json.list? Json.string?)
      (a.attributes.map (f ∘ Json.strings)) = some a.attributes := by
    refine Json.option?_map rfl (fun names => arr.list?_eq fun name _ => ?_) a.attributes
    rw [arr.string, Json.string?]
  simp [ofJson?, hfields, hattributes, Json.required?, arr.string, Json.string?]

theorem SchemaDocument.ofJson?_toJson (d : SchemaDocument) : ofJson? (f d.toJson) = some d := by
  obtain ⟨entities, aliases⟩ := d
  have hentities : Json.list? Entity.ofJson? (f (.array (entities.map Entity.toJson))) =
      some entities :=
    arr.list?_eq fun e _ => Entity.ofJson?_toJson arr e
  have haliases : Json.list? EntityAlias.ofJson? (f (.array (aliases.map EntityAlias.toJson))) =
      some aliases :=
    arr.list?_eq fun a _ => EntityAlias.ofJson?_toJson arr a
  cases aliases with
  | nil =>
    have hfields : (f (toJson ⟨entities, []⟩)).fields? ["entities", "aliases"] =
        some [some (f (.array (entities.map Entity.toJson))), none] := by
      rw [toJson, arr.fields?_eq (by simp [Distinct])]
      simp [Json.fields?, Json.field?]
    simp [ofJson?, hfields, hentities, Json.required?, Json.default?]
  | cons first rest =>
    have hfields : (f (toJson ⟨entities, first :: rest⟩)).fields? ["entities", "aliases"] =
        some [some (f (.array (entities.map Entity.toJson))),
          some (f (.array ((first :: rest).map EntityAlias.toJson)))] :=
      arr.fields?_keys (by simp [Distinct])
    rw [List.map_cons] at haliases
    simp [ofJson?, hfields, hentities, haliases, Json.required?, Json.default?]

end ReadBack

/-! ### Texts -/

theorem Attribute.numberless_toJson (a : Attribute) : Numberless a.toJson := by
  simp [toJson]

theorem JoinKey.numberless_toJson (key : JoinKey) : Numberless key.toJson := by
  cases key <;> simp [toJson]

theorem Relation.numberless_toJson (r : Relation) : Numberless r.toJson := by
  cases h : r.defaultAlias <;>
    simp [toJson, summaryMembers, optionalMember, h, JoinKey.numberless_toJson]

theorem Entity.numberless_toJson (e : Entity) : Numberless e.toJson := by
  simp [toJson, Attribute.numberless_toJson, Relation.numberless_toJson]

theorem EntityAlias.numberless_toJson (a : EntityAlias) : Numberless a.toJson := by
  cases h : a.attributes <;> simp [toJson, optionalMember, Json.strings, h]

theorem SchemaDocument.numberless_toJson (d : SchemaDocument) : Numberless d.toJson := by
  cases h : d.aliases <;>
    simp [toJson, h, Entity.numberless_toJson, EntityAlias.numberless_toJson]

/-- The texts that a document is written as: on one line or on many, with the members of objects
as they come or in canonical order. -/
def SchemaDocument.texts (d : SchemaDocument) : List String :=
  [d.toJson.compact, d.toJson.indented, d.toJson.canonical.compact, d.toJson.canonical.indented]

theorem SchemaDocument.ofText_texts (d : SchemaDocument) {text : String} (h : text ∈ d.texts) :
    ofText text = .ok d := by
  have hplain := d.numberless_toJson.parse?_eq
  have hsorted := d.numberless_toJson.canonical.parse?_eq
  have hread : ofJson? d.toJson = some d := ofJson?_toJson Json.arrangement_id d
  have hreadSorted := ofJson?_toJson Json.arrangement_canonical d
  simp only [texts, List.mem_cons, List.not_mem_nil, or_false] at h
  rcases h with rfl | rfl | rfl | rfl
  · simp [ofText, hplain.1, hread]
  · simp [ofText, hplain.2, hread]
  · simp [ofText, hsorted.1, hreadSorted]
  · simp [ofText, hsorted.2, hreadSorted]

/-! ### Building again -/

@[simp]
theorem Entity.withTable_withTable (e : Entity) : e.withTable.withTable = e.withTable := by
  by_cases h : e.table.isEmpty
  · have hnamed : e.withTable = { e with table := tableNameFor e.name } := if_pos h
    rw [hnamed, withTable]
    exact ite_self _
  · have hkept : e.withTable = e := if_neg h
    rw [hkept, hkept]

namespace Registry

variable {entities : List Entity} {aliases : List EntityAlias} {R : Registry}

/-- What is in order and has its tables stays as it is. -/
theorem arranged_arranged (coherent : Coherent entities aliases) :
    arranged (arranged entities aliases).entities (arranged entities aliases).aliases =
      arranged entities aliases := by
  have hnames := coherent.arranged.entityNames
  have htables : (inOrder (·.name) (entities.map (·.withTable))).map (·.withTable) =
      inOrder (·.name) (entities.map (·.withTable)) := by
    -- every entity that is kept has been given its table
    refine (List.map_congr_left fun e he => ?_).trans (List.map_id _)
    obtain ⟨e', -, rfl⟩ := List.mem_map.mp ((inOrder_perm _).mem_iff.mp he)
    exact e'.withTable_withTable
  have hentities := inOrder_eq_of_perm (inOrder_perm (entities.map (·.withTable))) hnames
  have haliases := inOrder_eq_of_perm (inOrder_perm aliases) coherent.arranged.aliasNames
  rw [arranged, arranged]
  simp only [htables, hentities, haliases]

/-- A registry is built again from its own definitions. -/
theorem build_built (built : build entities aliases = .ok R) :
    build R.entities R.aliases = .ok R := by
  obtain ⟨coherent, rfl⟩ := build_eq_ok.mp built
  exact build_eq_ok.mpr ⟨coherent.arranged, (arranged_arranged coherent).symm⟩

end Registry

namespace SchemaDocument

/-- A registry survives its way through a document: what is written is read as the same document,
which makes the same registry, and so every request is compiled alike with either. -/
theorem registry_survives_document {entities : List Entity} {aliases : List EntityAlias}
    {R : Registry} (built : Registry.build entities aliases = .ok R) :
    (∀ text ∈ (ofRegistry R).texts, ofText text = .ok (ofRegistry R)) ∧
    (ofRegistry R).registry = .ok R ∧
    ∀ text ∈ (ofRegistry R).texts, ∀ config name request,
      ((ofText text >>= registry).map fun R' =>
        (⟨R', config⟩ : Compiler).compileRequest name request) =
          .ok ((⟨R, config⟩ : Compiler).compileRequest name request) := by
  have hread : ∀ text ∈ (ofRegistry R).texts, ofText text = .ok (ofRegistry R) :=
    fun _ htext => ofText_texts _ htext
  have hbuilt : (ofRegistry R).registry = .ok R := Registry.build_built built
  refine ⟨hread, hbuilt, ?_⟩
  intro text htext config name request
  have hboth : ofText text >>= registry = .ok R :=
    bind_eq_ok.mpr ⟨_, hread text htext, hbuilt⟩
  rw [hboth]
  rfl

end SchemaDocument

namespace Registry.Sample

/-- An entity that leaves its table to its name. -/
def speaker : Entity :=
  ⟨"NativeSpeaker", "", "id", false, [⟨"id", .integer⟩],
    [Relation.manyToMany "books" "Book" "book_speaker" "speaker_id" "book_id"]⟩

/-- Any attribute can be searched by this name, and none by the next. -/
def elder : EntityAlias := ⟨"Elder", "NativeSpeaker", none⟩

def anonymous : EntityAlias := ⟨"Anonymous", "NativeSpeaker", some []⟩

def archive : Registry :=
  ⟨[author, book, { speaker with table := "native_speaker" }], [anonymous, elder, writer]⟩

theorem archive_survives_document :
    build [speaker, book, author] [elder, writer, anonymous] = .ok archive ∧
    (∀ text ∈ (SchemaDocument.ofRegistry archive).texts,
      SchemaDocument.ofText text = .ok (SchemaDocument.ofRegistry archive)) ∧
    (SchemaDocument.ofRegistry archive).registry = .ok archive := by
  have built : build [speaker, book, author] [elder, writer, anonymous] = .ok archive := rfl
  obtain ⟨hread, hbuilt, -⟩ := SchemaDocument.registry_survives_document built
  exact ⟨built, hread, hbuilt⟩

end Registry.Sample

end FieldSearch
