import FieldSearch.Schema.Registry

/-!
# The schema of the linguistic database

The resources that can be searched, with the table and column names of the relational layout. A
backup is a snapshot of a resource, whose relations are kept as plain text. `Memorizer` is a second
name of `User`, for those who have memorized a form; it shows their names and role alone.
-/

namespace FieldSearch

namespace Builtin

def integer (name : String) : Attribute := ⟨name, .integer⟩
def float (name : String) : Attribute := ⟨name, .float⟩
def text (name : String) : Attribute := ⟨name, .string⟩
def boolean (name : String) : Attribute := ⟨name, .boolean⟩
def date (name : String) : Attribute := ⟨name, .date⟩
def datetime (name : String) : Attribute := ⟨name, .datetime⟩

def entity (name table : String) (attributes : List Attribute) (relations : List Relation) :
    Entity :=
  ⟨name, table, "id", true, attributes, relations⟩

def form : Entity := entity "Form" "form"
  [integer "id", text "UUID", text "transcription", text "phonetic_transcription",
    text "narrow_phonetic_transcription", text "morpheme_break", text "morpheme_gloss",
    text "comments", text "speaker_comments", text "grammaticality", date "date_elicited",
    datetime "datetime_entered", datetime "datetime_modified", text "syntactic_category_string",
    text "morpheme_break_ids", text "morpheme_gloss_ids", text "break_gloss_category",
    text "syntax", text "semantics", text "status"]
  [.toOne "elicitor" "User" "elicitor_id",
    .toOne "enterer" "User" "enterer_id",
    .toOne "modifier" "User" "modifier_id",
    .toOne "verifier" "User" "verifier_id",
    .toOne "speaker" "Speaker" "speaker_id",
    .toOne "elicitation_method" "ElicitationMethod" "elicitationmethod_id",
    .toOne "syntactic_category" "SyntacticCategory" "syntacticcategory_id",
    .toOne "source" "Source" "source_id",
    (Relation.toMany "translations" "Translation" "form_id").asDefault,
    (Relation.manyToMany "files" "File" "formfile" "form_id" "file_id").asDefault,
    (Relation.manyToMany "collections" "Collection" "collectionform" "form_id"
      "collection_id").asDefault,
    (Relation.manyToMany "tags" "Tag" "formtag" "form_id" "tag_id").asDefault,
    (Relation.manyToMany "memorizers" "User" "userform" "form_id" "user_id").asDefaultFor
      "Memorizer",
    .manyToMany "corpora" "Corpus" "corpusform" "form_id" "corpus_id"]

def formBackup : Entity := entity "FormBackup" "formbackup"
  [integer "id", integer "form_id", date "date_elicited", datetime "datetime_entered",
    datetime "datetime_modified", text "UUID", text "transcription",
    text "phonetic_transcription", text "narrow_phonetic_transcription", text "morpheme_break",
    text "morpheme_gloss", text "comments", text "speaker_comments", text "grammaticality",
    text "syntactic_category_string", text "morpheme_break_ids", text "morpheme_gloss_ids",
    text "break_gloss_category", text "syntax", text "semantics", text "elicitor",
    text "enterer", text "verifier", text "speaker", text "elicitation_method",
    text "syntactic_category", text "source", text "translations", text "tags", text "files",
    text "collections"]
  []

def formSearch : Entity := entity "FormSearch" "formsearch"
  [integer "id", text "name", text "search", text "description", datetime "datetime_modified"]
  [.toOne "enterer" "User" "enterer_id"]

def translation : Entity := entity "Translation" "translation"
  [integer "id", text "transcription", text "grammaticality", datetime "datetime_modified"]
  [.toOne "form" "Form" "form_id"]

def file : Entity := entity "File" "file"
  [integer "id", text "filename", text "name", text "MIME_type", integer "size",
    text "description", date "date_elicited", datetime "datetime_entered",
    datetime "datetime_modified", text "utterance_type", text "url", float "start", float "end",
    text "lossy_filename"]
  [.toOne "enterer" "User" "enterer_id",
    .toOne "elicitor" "User" "elicitor_id",
    .toOne "speaker" "Speaker" "speaker_id",
    .toOne "parent_file" "File" "parent_file_id",
    (Relation.manyToMany "tags" "Tag" "filetag" "file_id" "tag_id").asDefault,
    (Relation.manyToMany "forms" "Form" "formfile" "file_id" "form_id").asDefault,
    (Relation.manyToMany "collections" "Collection" "collectionfile" "file_id"
      "collection_id").asDefault]

def collection : Entity := entity "Collection" "collection"
  [integer "id", text "UUID", text "title", text "type", text "url", text "description",
    text "markup_language", text "contents", text "html", date "date_elicited",
    datetime "datetime_entered", datetime "datetime_modified"]
  [.toOne "speaker" "Speaker" "speaker_id",
    .toOne "source" "Source" "source_id",
    .toOne "elicitor" "User" "elicitor_id",
    .toOne "enterer" "User" "enterer_id",
    .toOne "modifier" "User" "modifier_id",
    (Relation.manyToMany "tags" "Tag" "collectiontag" "collection_id" "tag_id").asDefault,
    (Relation.manyToMany "forms" "Form" "collectionform" "collection_id" "form_id").asDefault,
    (Relation.manyToMany "files" "File" "collectionfile" "collection_id" "file_id").asDefault]

def collectionBackup : Entity := entity "CollectionBackup" "collectionbackup"
  [integer "id", integer "collection_id", date "date_elicited", datetime "datetime_entered",
    datetime "datetime_modified", text "UUID", text "title", text "type", text "url",
    text "description", text "markup_language", text "contents", text "html", text "speaker",
    text "source", text "elicitor", text "enterer", text "tags", text "forms", text "files"]
  []

def tag : Entity := entity "Tag" "tag"
  [integer "id", text "name", text "description", datetime "datetime_modified"]
  [.manyToMany "forms" "Form" "formtag" "tag_id" "form_id",
    .manyToMany "files" "File" "filetag" "tag_id" "file_id"]

def user : Entity := entity "User" "user"
  [integer "id", text "username", text "first_name", text "last_name", text "email",
    text "affiliation", text "role", text "markup_language", text "page_content", text "html",
    datetime "datetime_modified"]
  [.toOne "input_orthography" "Orthography" "input_orthography_id",
    .toOne "output_orthography" "Orthography" "output_orthography_id",
    .manyToMany "remembered_forms" "Form" "userform" "user_id" "form_id"]

def speaker : Entity := entity "Speaker" "speaker"
  [integer "id", text "first_name", text "last_name", text "dialect", text "markup_language",
    text "page_content", text "html", datetime "datetime_modified"]
  []

def source : Entity := entity "Source" "source"
  [integer "id", integer "year", datetime "datetime_modified", text "type", text "key",
    text "address", text "annote", text "author", text "booktitle", text "chapter",
    text "crossref", text "edition", text "editor", text "howpublished", text "institution",
    text "journal", text "key_field", text "month", text "note", text "number",
    text "organization", text "pages", text "publisher", text "school", text "series",
    text "title", text "type_field", text "url", text "volume", text "affiliation",
    text "abstract", text "contents", text "copyright", text "ISBN", text "ISSN",
    text "keywords", text "language", text "location", text "LCCN", text "mrnumber",
    text "price", text "size"]
  [.toOne "file" "File" "file_id",
    .toOne "crossref_source" "Source" "crossref_source_id"]

def syntacticCategory : Entity := entity "SyntacticCategory" "syntacticcategory"
  [integer "id", text "name", text "type", text "description", datetime "datetime_modified"]
  [.toMany "forms" "Form" "syntacticcategory_id"]

def elicitationMethod : Entity := entity "ElicitationMethod" "elicitationmethod"
  [integer "id", text "name", text "description", datetime "datetime_modified"]
  []

def corpus : Entity := entity "Corpus" "corpus"
  [integer "id", text "UUID", text "name", text "type", text "description", text "content",
    datetime "datetime_entered", datetime "datetime_modified"]
  [.toOne "form_search" "FormSearch" "form_search_id",
    .toOne "enterer" "User" "enterer_id",
    .toOne "modifier" "User" "modifier_id",
    .manyToMany "tags" "Tag" "corpustag" "corpus_id" "tag_id",
    .manyToMany "forms" "Form" "corpusform" "corpus_id" "form_id"]

def corpusBackup : Entity := entity "CorpusBackup" "corpusbackup"
  [integer "id", integer "corpus_id", datetime "datetime_entered", datetime "datetime_modified",
    text "UUID", text "name", text "type", text "description", text "content", text "enterer",
    text "modifier", text "tags", text "forms"]
  []

def language : Entity := { entity "Language" "language"
  [text "Id", text "Part2B", text "Part2T", text "Part1", text "Scope", text "Type",
    text "Ref_Name", text "Comment", datetime "datetime_modified"]
  [] with primaryKey := "Id" }

def keyboard : Entity := entity "Keyboard" "keyboard"
  [integer "id", text "name", text "description", datetime "datetime_entered",
    datetime "datetime_modified"]
  [.toOne "enterer" "User" "enterer_id",
    .toOne "modifier" "User" "modifier_id"]

def orthography : Entity := entity "Orthography" "orthography"
  [integer "id", text "name", text "orthography", boolean "lowercase",
    boolean "initial_glottal_stops", datetime "datetime_modified"]
  []

def phonology : Entity := entity "Phonology" "phonology"
  [integer "id", text "UUID", text "name", text "description", text "script",
    datetime "datetime_entered", datetime "datetime_modified", datetime "datetime_compiled",
    boolean "compile_succeeded", text "compile_message", text "compile_attempt"]
  [.toOne "enterer" "User" "enterer_id",
    .toOne "modifier" "User" "modifier_id"]

def phonologyBackup : Entity := entity "PhonologyBackup" "phonologybackup"
  [integer "id", integer "phonology_id", datetime "datetime_entered",
    datetime "datetime_modified", datetime "datetime_compiled", boolean "compile_succeeded",
    text "UUID", text "name", text "description", text "script", text "enterer", text "modifier",
    text "compile_message", text "compile_attempt"]
  []

def morphology : Entity := entity "Morphology" "morphology"
  [integer "id", text "UUID", text "name", text "description", text "script_type",
    datetime "datetime_entered", datetime "datetime_modified", boolean "compile_succeeded",
    text "compile_message", text "compile_attempt", text "generate_attempt",
    boolean "extract_morphemes_from_rules_corpus", text "rules", text "rules_generated"]
  [.toOne "lexicon_corpus" "Corpus" "lexicon_corpus_id",
    .toOne "rules_corpus" "Corpus" "rules_corpus_id",
    .toOne "enterer" "User" "enterer_id",
    .toOne "modifier" "User" "modifier_id"]

def morphologyBackup : Entity := entity "MorphologyBackup" "morphologybackup"
  [integer "id", integer "morphology_id", datetime "datetime_entered",
    datetime "datetime_modified", boolean "compile_succeeded",
    boolean "extract_morphemes_from_rules_corpus", text "UUID", text "name", text "description",
    text "script_type", text "enterer", text "modifier", text "lexicon_corpus",
    text "rules_corpus", text "compile_message", text "compile_attempt", text "generate_attempt",
    text "rules"]
  []

def morphologicalParser : Entity := entity "MorphologicalParser" "morphologicalparser"
  [integer "id", text "UUID", text "name", text "description", datetime "datetime_entered",
    datetime "datetime_modified", boolean "compile_succeeded", text "compile_message",
    text "compile_attempt"]
  [.toOne "phonology" "Phonology" "phonology_id",
    .toOne "morphology" "Morphology" "morphology_id",
    .toOne "language_model" "MorphemeLanguageModel" "language_model_id",
    .toOne "enterer" "User" "enterer_id",
    .toOne "modifier" "User" "modifier_id"]

def morphologicalParserBackup : Entity :=
  entity "MorphologicalParserBackup" "morphologicalparserbackup"
  [integer "id", integer "morphologicalparser_id", datetime "datetime_entered",
    datetime "datetime_modified", boolean "compile_succeeded", text "UUID", text "name",
    text "description", text "phonology", text "morphology", text "language_model",
    text "enterer", text "modifier", text "compile_message", text "compile_attempt"]
  []

def morphemeLanguageModel : Entity := entity "MorphemeLanguageModel" "morphemelanguagemodel"
  [integer "id", text "UUID", text "name", text "description", text "smoothing",
    integer "order", datetime "datetime_entered", datetime "datetime_modified",
    boolean "generate_succeeded", text "generate_message", text "generate_attempt"]
  [.toOne "corpus" "Corpus" "corpus_id",
    .toOne "vocabulary_morphology" "Morphology" "vocabulary_morphology_id",
    .toOne "enterer" "User" "enterer_id",
    .toOne "modifier" "User" "modifier_id"]

def morphemeLanguageModelBackup : Entity :=
  entity "MorphemeLanguageModelBackup" "morphemelanguagemodelbackup"
  [integer "id", integer "morphemelanguagemodel_id", datetime "datetime_entered",
    datetime "datetime_modified", boolean "generate_succeeded", text "UUID", text "name",
    text "description", text "corpus", text "enterer", text "modifier", text "generate_message",
    text "generate_attempt"]
  []

def memorizer : EntityAlias :=
  ⟨"Memorizer", "User", some ["id", "first_name", "last_name", "role"]⟩

def entities : List Entity := [
  form, formBackup, formSearch, translation, file, collection, collectionBackup, tag, user,
  speaker, source, syntacticCategory, elicitationMethod, corpus, corpusBackup, language,
  keyboard, orthography, phonology, phonologyBackup, morphology, morphologyBackup,
  morphologicalParser, morphologicalParserBackup, morphemeLanguageModel,
  morphemeLanguageModelBackup]

end Builtin

/-- The registry of the linguistic database. -/
def Registry.builtin : Except SchemaError Registry :=
  Registry.build Builtin.entities [Builtin.memorizer]

end FieldSearch
