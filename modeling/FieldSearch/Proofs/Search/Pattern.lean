import FieldSearch.Proofs.Pattern.Plain
import FieldSearch.Proofs.Search.Reach

/-!
# Patterns of searches

A pattern is judged as it is spelled when the operand has been converted. Where operands are
decomposed, that need not be as the client wrote it: a range in a class loses its end to a mark, and
an escaped letter its accent. Texts without signs of the syntax, and texts that are decomposed
already, are judged as they are written.
-/

namespace FieldSearch

namespace Scope

variable {scope : Scope}

/-- A text as an operand is spelled. -/
def spelled (scope : Scope) (s : String) : String := if scope.normalize then Text.nfd s else s

theorem spelled_of_decomposed {s : String} (h : scope.normalize = false ∨ Text.nfd s = s) :
    scope.spelled s = s := by
  rcases h with exact | decomposed
  · simp [spelled, exact]
  · simp [spelled, decomposed]

theorem spelled_plain {s : String} (plain : Pattern.Plain s) : Pattern.Plain (scope.spelled s) := by
  unfold spelled
  split
  · exact Pattern.nfd_plain plain
  · exact plain

theorem operand_regex (p : String) : scope.operand .regex .string (.string p) =
    if Pattern.isValid (scope.spelled p) then .ok (.single (.string (scope.spelled p)))
    else .error (.invalidPattern (scope.spelled p)) := by
  have value : scope.value .string (.string p) = .ok (.string (scope.spelled p)) := rfl
  have single : Comparison.regex ≠ .isIn := by decide
  unfold operand
  rw [if_neg single, if_neg (by simp [Json.isNull]), value]
  simp only [bind, Except.bind, checkPattern]
  by_cases valid : Pattern.isValid (scope.spelled p) = true
  · simp only [if_pos valid]
    rfl
  · simp only [if_neg valid]

variable (consistent : scope.registry.Consistent)
  (start : scope.registry.searchable? scope.root.name = some scope.root) {path : List String}
  {via : Option Relation} {e : Entity} {a : Attribute} (reaches : scope.Reaches path via e a)
  (string : a.type = .string) (p : String) (source : Json)

include consistent start reaches string

/-- A leaf that compares a string with a pattern. -/
theorem leaf_regex : scope.leaf ⟨path, .regex, .string p, source⟩ =
    if Pattern.isValid (scope.spelled p) then
      .ok (scope.comparing via e a .regex (.single (.string (scope.spelled p))))
    else .error (.invalidOperand e.name a.name (.invalidPattern (scope.spelled p)) source) := by
  have accepted : Comparison.regex.accepts a.type = true := by
    rw [string]
    rfl
  rw [reaches.leaf consistent start, compareLeaf, accepted, string, operand_regex]
  by_cases valid : Pattern.isValid (scope.spelled p) = true
  · simp only [if_pos valid]
    rfl
  · simp only [if_neg valid]
    rfl

/-- It resolves just if the pattern, as it is spelled then, is valid. -/
theorem leaf_regex_resolves : (∃ resolved,
    scope.leaf ⟨path, .regex, .string p, source⟩ = .ok resolved) ↔
      Pattern.isValid (scope.spelled p) = true := by
  rw [leaf_regex consistent start reaches string]
  split
  next valid => exact iff_of_true ⟨_, rfl⟩ valid
  next invalid =>
    refine iff_of_false ?_ invalid
    rintro ⟨_, h⟩
    cases h

end Scope

/-- The comparison of a string with a pattern resolves just if the pattern is valid as it is spelled
when the operand has been converted, and then compares with that spelling; else the operand is
refused. So a pattern that is decomposed, or is not to be, is judged as it is written, and a text
without signs of the syntax is refused only for its size. -/
theorem pattern_judged_as_spelled {entities : List Entity} {aliases : List EntityAlias}
    {registry : Registry} (built : Registry.build entities aliases = .ok registry)
    {config : Config} {searched : String} {root : Entity}
    (start : (Compiler.mk registry config).root searched = .ok root) {path : List String}
    {via : Option Relation} {e : Entity} {a : Attribute}
    (reaches : ((Compiler.mk registry config).scope root).Reaches path via e a)
    (string : a.type = .string) (p : String) (source : Json) :
    let scope := (Compiler.mk registry config).scope root
    let resolves := ∃ resolved, scope.leaf ⟨path, .regex, .string p, source⟩ = .ok resolved
    scope.leaf ⟨path, .regex, .string p, source⟩ =
        (if Pattern.isValid (scope.spelled p) then
          .ok (scope.comparing via e a .regex (.single (.string (scope.spelled p))))
        else .error (.invalidOperand e.name a.name (.invalidPattern (scope.spelled p)) source)) ∧
      (config.normalizeStrings = false ∨ Text.nfd p = p →
        (resolves ↔ Pattern.isValid p = true)) ∧
      (Pattern.Plain p →
        (Pattern.isValid p = true ↔
          Pattern.encodedSize p.toList * Pattern.stateSize ≤ Pattern.sizeLimit) ∧
        (resolves ↔ Pattern.encodedSize (scope.spelled p).toList * Pattern.stateSize ≤
          Pattern.sizeLimit)) := by
  intro scope resolves
  have consistent : scope.registry.Consistent := Registry.build_consistent built
  have searchable := Compiler.scope_searchable start
  have judged := Scope.leaf_regex_resolves consistent searchable reaches string p source
  refine ⟨Scope.leaf_regex consistent searchable reaches string p source, fun same => ?_,
    fun plain => ⟨Pattern.isValid_plain plain, ?_⟩⟩
  · have unchanged : scope.spelled p = p := Scope.spelled_of_decomposed same
    rw [unchanged] at judged
    exact judged
  · exact judged.trans (Pattern.isValid_plain (Scope.spelled_plain plain))

namespace Registry.Sample

theorem editor_name_reached (config : Config) :
    ((Compiler.mk library config).scope book).Reaches ["Book", "editor", "name"] (some editor)
      author ⟨"name", .string⟩ :=
  .related rfl rfl rfl

end Registry.Sample

open Registry.Sample in
/-- A name, a group without an end, and a range of letters with accents, which is a pattern where
operands are left as they are. -/
theorem editors_by_pattern :
    ((Compiler.mk library {}).scope book).leaf
        ⟨["Book", "editor", "name"], .regex, .string "Zo\u00E9", .null⟩ =
      .ok (.compare (some ⟨"Book", editor⟩) "Author" "name" .regex
        (.single (.string "Zoe\u0301"))) ∧
    ((Compiler.mk library {}).scope book).leaf
        ⟨["Book", "editor", "name"], .regex, .string "(Zoe", .null⟩ =
      .error (.invalidOperand "Author" "name" (.invalidPattern "(Zoe") .null) ∧
    ∃ resolved, ((Compiler.mk library { normalizeStrings := false }).scope book).leaf
      ⟨["Book", "editor", "name"], .regex, .string "[\u00E0-\u00E9]", .null⟩ = .ok resolved := by
  have asWritten : (Compiler.mk library { normalizeStrings := false }).root "Book" = .ok book := by
    rfl
  obtain ⟨name, -⟩ := pattern_judged_as_spelled library_built library_root
    (editor_name_reached {}) rfl "Zo\u00E9" .null
  obtain ⟨group, -⟩ := pattern_judged_as_spelled library_built library_root
    (editor_name_reached {}) rfl "(Zoe" .null
  obtain ⟨-, range, -⟩ := pattern_judged_as_spelled library_built asWritten
    (editor_name_reached _) rfl "[\u00E0-\u00E9]" .null
  have zoe : ((Compiler.mk library {}).scope book).spelled "Zo\u00E9" = "Zoe\u0301" := by
    decide +kernel
  have valid : Pattern.isValid "Zoe\u0301" = true := by decide +kernel
  have ascii : ((Compiler.mk library {}).scope book).spelled "(Zoe" = "(Zoe" :=
    Scope.spelled_of_decomposed (.inr (Text.nfd_of_small (by simp)))
  have invalid : Pattern.isValid "(Zoe" = false := by decide +kernel
  refine ⟨?_, ?_, (range (.inl rfl)).mpr (by decide +kernel)⟩
  · rw [name, zoe, if_pos valid]
    rfl
  · rw [group, ascii, if_neg (by simp [invalid])]
    rfl

open Registry.Sample in
/-- A pattern that becomes none when it is decomposed, and one that becomes a pattern then. -/
theorem accents_taken_for_syntax :
    Registry.build [author, book] [writer] = .ok library ∧
      (Compiler.mk library {}).root "Book" = .ok book ∧
      ((Compiler.mk library {}).scope book).Reaches ["Book", "editor", "name"] (some editor) author
        ⟨"name", .string⟩ ∧
      Pattern.isValid "[\u00E0-\u00E9]" = true ∧
      ((Compiler.mk library {}).scope book).leaf
          ⟨["Book", "editor", "name"], .regex, .string "[\u00E0-\u00E9]", .null⟩ =
        .error (.invalidOperand "Author" "name" (.invalidPattern "[a\u0300-e\u0301]") .null) ∧
      Pattern.isValid "\\\u00E0" = false ∧
      ∃ resolved, ((Compiler.mk library {}).scope book).leaf
        ⟨["Book", "editor", "name"], .regex, .string "\\\u00E0", .null⟩ = .ok resolved := by
  have leaf := Scope.leaf_regex (Registry.build_consistent library_built)
    (Compiler.scope_searchable library_root) (editor_name_reached {}) rfl
  have range : Pattern.isValid
      (((Compiler.mk library {}).scope book).spelled "[\u00E0-\u00E9]") = false := by
    decide +kernel
  have escape : Pattern.isValid
      (((Compiler.mk library {}).scope book).spelled "\\\u00E0") = true := by
    decide +kernel
  refine ⟨library_built, library_root, editor_name_reached {}, by decide +kernel, ?_,
    by decide +kernel, ?_⟩
  · rw [leaf, if_neg (by simp [range])]
    rfl
  · rw [leaf, if_pos escape]
    exact ⟨_, rfl⟩

end FieldSearch
