import PartialUpdate.Proofs.Acceptance
import PartialUpdate.Proofs.Analysis

/-!
# Bindings from resolution to analysis

A binding whose path leads nowhere holds its method back: the error stands on the binding or,
where all paths of the method fail together, once on the method.  The descriptor of a method
that is not held back therefore has all bindings of the resolved method, and it keeps them
through the analysis.
-/

namespace PartialUpdate

/-!
# Bindings without a target
-/

namespace Resolution

variable {source : TypeInfo} {table : TypeTable} {config : GeneratorConfig} {marker : MarkerSpec}

theorem problems_of_unresolved {binding : ResolvedBinding} {problem : PathProblem}
    (hmem : binding ∈ (method source table config marker).bindings)
    (hunresolved : binding.target = .error problem) :
    binding.problems ≠ [] ∨ (method source table config marker).problems source table ≠ [] := by
  by_cases hmethod : (method source table config marker).problems source table = []
  · rcases problems_eq_nil.mp hmethod with ⟨_hname, target, htarget, hsuits⟩
    rcases (exists_ofMarker_eq_ok htarget).mpr hsuits.nested with ⟨start, hstart⟩
    refine Or.inl (fun hnone => ?_)
    have hadmissible :=
      (ResolvedBinding.problems_eq_nil (not_failsWithMethod hstart hmem)).mp hnone
    rcases hadmissible.target with ⟨found, hfound, _hfits⟩
    rw [hunresolved] at hfound
    cases hfound
  · exact Or.inr hmethod

theorem not_accepted_of_unresolved {binding : ResolvedBinding} {problem : PathProblem}
    (hmem : binding ∈ (method source table config marker).bindings)
    (hunresolved : binding.target = .error problem) :
    (method source table config marker).accepted source table = false := by
  rw [Bool.eq_false_iff]
  intro haccepted
  rcases ResolvedMethod.accepted_iff_no_problem.mp haccepted with ⟨hmethod, hbindings⟩
  rcases problems_of_unresolved hmem hunresolved with hbinding | hown
  · exact hbinding (hbindings binding hmem)
  · exact hown hmethod

theorem exists_target_of_accepted
    (haccepted : (method source table config marker).accepted source table = true)
    {binding : ResolvedBinding} (hmem : binding ∈ (method source table config marker).bindings) :
    exists target, binding.target = .ok target := by
  cases htarget : binding.target with
  | ok target => exact ⟨target, rfl⟩
  | error problem =>
      rw [not_accepted_of_unresolved hmem htarget] at haccepted
      cases haccepted

end Resolution

/-!
# Descriptors and the methods that they come from
-/

/-- A descriptor has the names of a resolved method and all of its bindings, in order. -/
structure UpdateMethod.Keeps (described : UpdateMethod) (resolved : ResolvedMethod) : Prop where
  key : described.key = resolved.key
  inherent : described.inherent = resolved.requiresExtensibleTarget
  location : described.location = resolved.location
  bindings : List.Forall₂ PropertyBinding.Describes described.bindings resolved.bindings

namespace Resolution

variable {source : TypeInfo} {table : TypeTable} {config : GeneratorConfig}

theorem toUpdateMethod_keeps {resolved : ResolvedMethod}
    (hmem : resolved ∈ (resolve source table config).methods)
    (haccepted : resolved.accepted source table = true) :
    resolved.toUpdateMethod.Keeps resolved where
  key := rfl
  inherent := rfl
  location := rfl
  bindings := by
    rcases List.mem_map.mp hmem with ⟨marker, _hmarker, rfl⟩
    exact ResolvedBinding.forall₂_describes _
      (fun binding hbinding => exists_target_of_accepted haccepted hbinding)

end Resolution

namespace Validation

/-- A method with an unresolved binding has no descriptor, and the descriptor of any other
method that is accepted has each binding of the method once, in its place and unchanged. -/
theorem validate_keeps_bindings (source : TypeInfo) (table : TypeTable)
    (config : GeneratorConfig) :
    List.Forall₂ UpdateMethod.Keeps
        (validate source (resolve source table config) table).methods
        ((resolve source table config).methods.filter (ResolvedMethod.accepted source table))
      ∧ forall resolved, resolved ∈ (resolve source table config).methods ->
          forall binding, binding ∈ resolved.bindings ->
            forall problem, binding.target = .error problem ->
              resolved.accepted source table = false := by
  constructor
  · rw [validate, List.forall₂_map_left_iff, List.forall₂_same]
    intro resolved hmem
    rcases List.mem_filter.mp hmem with ⟨hresolved, haccepted⟩
    exact Resolution.toUpdateMethod_keeps hresolved haccepted
  · intro resolved hresolved binding hbinding problem hunresolved
    rcases List.mem_map.mp hresolved with ⟨marker, _hmarker, rfl⟩
    exact Resolution.not_accepted_of_unresolved hbinding hunresolved

def ghostMarker : MarkerSpec where
  targetType := "Ghost"
  methodName := some "to_ghost"

/-- A source with one marker for a known type and one for a type that nothing declares. -/
def halfKnownSource : TypeInfo where
  name := "Patch"
  members := [.plain "name" .text]
  markers := [{ targetType := "User" }, ghostMarker]

def halfKnown : TypeTable where
  types := [{ name := "User", members := [.plain "name" .text] }, halfKnownSource]

theorem validate_keeps_bindings_halfKnown :
    (Resolution.method halfKnownSource halfKnown {} ghostMarker).accepted
        halfKnownSource halfKnown = false
      ∧ exists described resolved,
          (validate halfKnownSource (resolve halfKnownSource halfKnown {}) halfKnown).methods =
            [described]
          ∧ described.Keeps resolved ∧ resolved.bindings.length = 1 := by
  have hkeeps := validate_keeps_bindings halfKnownSource halfKnown {}
  have hmarker : ghostMarker ∈ halfKnownSource.markers :=
    List.mem_cons_of_mem _ List.mem_cons_self
  have hghost := List.mem_map_of_mem
    (f := Resolution.method halfKnownSource halfKnown {}) hmarker
  have hbinding := List.mem_of_getElem?
    (show (Resolution.method halfKnownSource halfKnown {} ghostMarker).bindings[0]? = some _
      from rfl)
  refine ⟨hkeeps.2 _ hghost _ hbinding _ rfl, ?_⟩
  cases hkeeps.1 with
  | cons hfirst hrest =>
      cases hrest
      exact ⟨_, _, rfl, hfirst, rfl⟩

end Validation

/-!
# Descriptors of an analysis
-/

namespace Analysis

variable {table : TypeTable} {config : GeneratorConfig} {cancelled : Bool}

theorem mem_unitMethods_of_mem {method : UpdateMethod}
    (hmem : method ∈ (analyze table config cancelled).methods) :
    method ∈ unitMethods table config := by
  cases cancelled with
  | true => cases hmem
  | false => exact mem_unitMethods_of_mem_analyze hmem

theorem exists_keeps_of_mem_unitMethods {method : UpdateMethod}
    (hmem : method ∈ unitMethods table config) :
    exists source marker, source ∈ table.sources ∧ marker ∈ source.markers
      ∧ marker.IsAdmissible source table config
      ∧ method.Keeps (Resolution.method source table config marker)
      ∧ Aggregation.repeatedPaths method = [] := by
  rcases List.mem_flatMap.mp hmem with ⟨source, hsource, hunit⟩
  have hdeclares := validate_declares source table config
  have hunit : method ∈ (aggregate (validate source (resolve source table config) table).methods
      (resolve source table config).declared config).methods := hunit
  have hpaths := (Aggregation.mem_aggregate.mp hunit).2
  rcases Validation.mem_validate_methods.mp (Aggregation.mem_of_mem_aggregate hdeclares hunit)
    with ⟨resolved, hresolved, haccepted, rfl⟩
  have hkeeps := Resolution.toUpdateMethod_keeps hresolved haccepted
  rcases List.mem_map.mp hresolved with ⟨marker, hmarker, rfl⟩
  exact ⟨source, marker, hsource, hmarker,
    Resolution.accepted_iff_isAdmissible.mp haccepted, hkeeps, hpaths⟩

end Analysis
end PartialUpdate
