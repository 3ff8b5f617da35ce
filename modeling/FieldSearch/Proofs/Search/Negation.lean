import FieldSearch.Proofs.Filter.Grammar
import FieldSearch.Proofs.Search.WellFormed

/-!
# Negated filters

The negation of a filter is accepted if the filter may be nested one level deeper. It compiles to
the negation of the predicate, over the same joins.
-/

namespace FieldSearch

namespace Filter

def notNode (node : Json) : Json := .array [.string "not", node]

theorem measure_notNode (node : Json) :
    measure (notNode node) = ⟨(measure node).depth + 1, (measure node).leaves⟩ := by
  simp [notNode, measure, Complexity.under]

theorem parse_notNode {bounds : Bounds} {node : Json} {f : Filter}
    (h : parse bounds node = .ok f) (deep : (measure node).depth + 1 ≤ bounds.maxDepth) :
    parse bounds (notNode node) = .ok (.not f) := by
  obtain ⟨mirrors, -, hleaves⟩ := parse_eq_ok.mp h
  have hdepth : (measure node).depth = f.depth := by rw [mirrors.measure]
  rw [hdepth] at deep
  exact parse_eq_ok.mpr ⟨.not mirrors, deep, hleaves⟩

end Filter

/-- The plan that asks for the opposite. -/
def Plan.negated (plan : Plan) : Plan := { plan with predicate := .not plan.predicate }

namespace Compiler

variable {c : Compiler} {name : String} {filter orderBy : Json} {page : Option Page} {plan : Plan}

theorem resolve_notNode {root : Entity} {resolved : ResolvedFilter}
    (h : c.resolve root filter = .ok resolved)
    (deep : (measure filter).depth + 1 ≤ c.config.maxDepth) :
    c.resolve root (Filter.notNode filter) = .ok (.not resolved) := by
  obtain ⟨f, hf, hresolved⟩ := bind_eq_ok.mp h
  refine bind_eq_ok.mpr ⟨.not f, Filter.parse_notNode hf deep, ?_⟩
  exact map_eq_ok.mpr ⟨resolved, hresolved, rfl⟩

/-- The negation of an accepted filter compiles to the negated plan unless it is nested too deep. -/
theorem compile_notNode (h : c.compile name filter orderBy page = .ok plan)
    (deep : (measure filter).depth + 1 ≤ c.config.maxDepth) :
    c.compile name (Filter.notNode filter) orderBy page = .ok plan.negated := by
  obtain ⟨root, resolved, terms, hroot, hresolved, hterms, rfl⟩ := compile_eq_ok h
  exact compile_of_stages hroot (resolve_notNode hresolved deep) hterms page

end Compiler

end FieldSearch
