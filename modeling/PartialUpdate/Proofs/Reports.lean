import PartialUpdate.Proofs.Problems

/-!
# What is reported about a method

A validation reports all problems in one pass: first those of a marker, then those of each of its
bindings, which depend on the binding alone.  A path that leads nowhere is reported once.  Where no
path of a method can be followed, this is said on the method, and on none of its bindings.
-/

namespace PartialUpdate

namespace Problem

def isAboutPath (problem : Problem) : Bool :=
  ["UPD008", "UPD011", "UPD012", "UPD013"].contains problem.code

theorem filter_isAboutPath_eq_nil {codes : List String} {problems : List Problem}
    (hcodes : (problems.map Problem.code).Sublist codes)
    (hother : forall code, code ∈ codes ->
      code ∉ ["UPD008", "UPD011", "UPD012", "UPD013"]) :
    problems.filter isAboutPath = [] := by
  rw [List.filter_eq_nil_iff]
  intro problem hmem habout
  exact hother problem.code (hcodes.subset (List.mem_map_of_mem hmem))
    (List.contains_iff_mem.mp habout)

end Problem

/-!
# Problems about paths
-/

namespace ResolvedBinding

variable {binding : ResolvedBinding} {target : ResolvedTarget} {problem : Problem}

/-!
Of the problems about paths a binding has at most the one of its own path.
-/

theorem filter_problems (binding : ResolvedBinding) :
    binding.problems.filter Problem.isAboutPath =
      binding.targetProblems.filter Problem.isAboutPath := by
  rw [problems, List.filter_append,
    Problem.filter_isAboutPath_eq_nil binding.codes_propertyProblems (by decide), List.nil_append]

theorem filter_problems_of_ok (htarget : binding.target = .ok target) :
    binding.problems.filter Problem.isAboutPath = [] := by
  rw [filter_problems, targetProblems_of_ok htarget]
  exact Problem.filter_isAboutPath_eq_nil (binding.codes_optionProblems target) (by decide)

theorem filter_problems_of_matches {why : PathProblem} (htarget : binding.target = .error why)
    (hmatches : why.Matches problem) :
    binding.problems.filter Problem.isAboutPath = [problem] := by
  rw [filter_problems, targetProblems_of_matches htarget hmatches]
  cases hmatches <;> rfl

theorem filter_problems_of_failsWithMethod (h : binding.FailsWithMethod) :
    binding.problems.filter Problem.isAboutPath = [] := by
  rw [filter_problems, targetProblems_of_failsWithMethod h, List.filter_nil]

end ResolvedBinding

namespace Resolution

variable {source target : TypeInfo} {table : TypeTable} {config : GeneratorConfig}
  {marker : MarkerSpec}

theorem filter_nameProblems (method : ResolvedMethod) :
    method.nameProblems.filter Problem.isAboutPath = [] :=
  Problem.filter_isAboutPath_eq_nil method.codes_nameProblems (by decide)

theorem filter_problems_of_lacksTarget (htarget : marker.LacksTarget table) :
    ((method source table config marker).problems source table).filter Problem.isAboutPath =
      [.targetTypeNotFound (simpleTypeName marker.targetType)] := by
  rw [problems_of_lacksTarget htarget, List.filter_append, filter_nameProblems]
  rfl

theorem filter_problems_of_target
    (htarget : table.get? (simpleTypeName marker.targetType) = some target) :
    ((method source table config marker).problems source table).filter Problem.isAboutPath =
      (method source table config marker).prefixProblems.filter Problem.isAboutPath := by
  have hextensible := Problem.filter_isAboutPath_eq_nil
    ((method source table config marker).codes_extensibleProblems target) (by decide)
  have howner := Problem.filter_isAboutPath_eq_nil
    ((method source table config marker).codes_ownerProblems source target) (by decide)
  simp only [problems_of_target htarget, List.filter_append, filter_nameProblems, hextensible,
    howner, List.nil_append, List.append_nil]

theorem failsWithMethod_of_error {why : PathProblem}
    (hstart : PathPrefix.ofMarker table marker = .error why) {binding : ResolvedBinding}
    (hmem : binding ∈ (method source table config marker).bindings) :
    binding.FailsWithMethod := by
  rcases List.mem_map.mp hmem with ⟨⟨slot, order⟩, _hplace, rfl⟩
  have htarget : (Resolution.binding source table config marker (slot, order)).target =
      slotTarget table (.error why) slot := by
    rw [← hstart]
    rfl
  unfold ResolvedBinding.FailsWithMethod
  rw [htarget]
  cases why <;> simp [slotTarget]

end Resolution

/-- Of a path that leads to a field nothing is said; one that leads nowhere is reported once. -/
def ResolvedBinding.ReportsPath (binding : ResolvedBinding) (problems : List Problem) : Prop :=
  (exists target, binding.target = .ok target ∧ problems.filter Problem.isAboutPath = [])
    ∨ exists why problem, binding.target = .error why ∧ why.Matches problem
      ∧ problems.filter Problem.isAboutPath = [problem]

/-- What is reported about paths: that the target type is not known, or that the nested path leads
nowhere, each of them once and on the method, or else the problem of each path on its binding. -/
structure MarkerSpec.ReportsPaths (source : TypeInfo) (table : TypeTable)
    (config : GeneratorConfig) (marker : MarkerSpec) (own : List Problem)
    (report : ResolvedBinding -> List Problem) : Prop where
  unknownTarget : marker.LacksTarget table ->
    own.filter Problem.isAboutPath = [.targetTypeNotFound (simpleTypeName marker.targetType)]
      ∧ forall binding, binding ∈ (Resolution.method source table config marker).bindings ->
        (report binding).filter Problem.isAboutPath = []
  badPrefix : forall target nested, marker.HasBadPrefix table target nested ->
    own.filter Problem.isAboutPath = [.invalidNestedProperty nested target.name]
      ∧ forall binding, binding ∈ (Resolution.method source table config marker).bindings ->
        (report binding).filter Problem.isAboutPath = []
  eachPath : ¬ marker.LacksTarget table ->
    (¬ exists target nested, marker.HasBadPrefix table target nested) ->
    own.filter Problem.isAboutPath = []
      ∧ forall binding, binding ∈ (Resolution.method source table config marker).bindings ->
        binding.ReportsPath (report binding)

theorem Resolution.reportsPaths_problems (source : TypeInfo) (table : TypeTable)
    (config : GeneratorConfig) (marker : MarkerSpec) :
    marker.ReportsPaths source table config
      ((Resolution.method source table config marker).problems source table)
      ResolvedBinding.problems where
  unknownTarget := by
    intro htarget
    have hstart : PathPrefix.ofMarker table marker = .error .targetTypeMissing := by
      unfold MarkerSpec.LacksTarget at htarget
      rw [PathPrefix.ofMarker, htarget]
    refine ⟨filter_problems_of_lacksTarget htarget, ?_⟩
    intro binding hmem
    exact binding.filter_problems_of_failsWithMethod (failsWithMethod_of_error hstart hmem)
  badPrefix := by
    intro target nested hfaulty
    have hstart := ofMarker_of_hasBadPrefix hfaulty
    rw [filter_problems_of_target hfaulty.1, prefixProblems_of_hasBadPrefix hfaulty]
    refine ⟨rfl, ?_⟩
    intro binding hmem
    exact binding.filter_problems_of_failsWithMethod (failsWithMethod_of_error hstart hmem)
  eachPath := by
    intro hknown hsound
    rcases Option.ne_none_iff_exists'.mp hknown with ⟨target, htarget⟩
    have hgood : ¬ exists nested, marker.HasBadPrefix table target nested := by
      rintro ⟨nested, hbad⟩
      exact hsound ⟨target, nested, hbad⟩
    rcases exists_start htarget hgood with ⟨start, hstart⟩
    rw [filter_problems_of_target htarget, (prefixProblems_eq_nil htarget).mpr ⟨start, hstart⟩]
    refine ⟨rfl, ?_⟩
    intro binding hmem
    rcases binding.target_cases with ⟨found, hfound⟩ | ⟨why, problem, hwhy, hmatches⟩ | hfails
    · exact .inl ⟨found, hfound, binding.filter_problems_of_ok hfound⟩
    · exact .inr ⟨why, problem, hwhy, hmatches, binding.filter_problems_of_matches hwhy hmatches⟩
    · exact absurd hfails (not_failsWithMethod hstart hmem)

namespace Validation

/-- A validation reports the unmatched specs, and then for each marker all that is wrong with it
and all that is wrong with each of its bindings, in this order.  What is reported on a binding
depends on the binding alone, and no path is reported on more than one of them. -/
theorem validate_reports :
    exists report : ResolvedBinding -> List Problem,
      (forall binding,
        Problem.Reports ResolvedBinding.codes binding.HasProblem (report binding))
      ∧ forall (source : TypeInfo) (table : TypeTable) (config : GeneratorConfig),
        exists own : MarkerSpec -> List Problem,
          (forall marker,
            Problem.Reports MarkerSpec.codes (marker.HasProblem source table config) (own marker)
              ∧ marker.ReportsPaths source table config (own marker) report)
          ∧ (validate source (resolve source table config) table).diagnostics =
              (resolve source table config).unmatched.map UnmatchedSpec.diagnostic
                ++ source.markers.flatMap (fun marker =>
                  (own marker).map (fun problem =>
                    ⟨problem, (Location.source source.name).withMethod
                      (simpleTypeName marker.targetType) (config.markerMethod marker)⟩)
                  ++ (Resolution.method source table config marker).bindings.flatMap
                    (fun binding =>
                      (report binding).map (fun problem => ⟨problem, binding.location⟩))) := by
  refine ⟨ResolvedBinding.problems, ResolvedBinding.reports_problems, ?_⟩
  intro source table config
  refine ⟨fun marker => (Resolution.method source table config marker).problems source table,
    fun marker => ⟨Resolution.reports_problems source table config marker,
      Resolution.reportsPaths_problems source table config marker⟩, ?_⟩
  rw [validate, resolve, List.flatMap_map]
  rfl

end Validation
end PartialUpdate
