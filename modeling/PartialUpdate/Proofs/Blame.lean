import PartialUpdate.Proofs.Analysis

/-!
# Where errors point

An error of an analysis points at its source, and at no method that the analysis keeps.
-/

namespace PartialUpdate

theorem Location.PointsAt.unique {location : Location} {key other : MethodKey}
    (h : location.PointsAt key) (hother : location.PointsAt other) : key = other := by
  have htarget := Option.some.inj (h.1.symm.trans hother.1)
  have hmethod := Option.some.inj (h.2.1.symm.trans hother.2.1)
  have hsource := h.2.2.symm.trans hother.2.2
  exact Prod.ext htarget (Prod.ext hmethod hsource)

def MethodKey.pair (key : MethodKey) : String × String := (key.1, key.2.1)

theorem eq_of_mem_of_length_le_one {α : Type} {items : List α} (hlength : items.length ≤ 1)
    {a b : α} (ha : a ∈ items) (hb : b ∈ items) : a = b := by
  by_contra hne
  rcases Aggregation.getElem?_one_of_mem_ne ha hb hne with ⟨second, hsecond⟩
  have hbound := (List.getElem?_eq_some_iff.mp hsecond).1
  omega

/-!
# Methods that an aggregation keeps
-/

namespace Aggregation

variable {source : String} {declared : List DeclaredMethod} {methods : List UpdateMethod}
variable {config : GeneratorConfig}

/-- Why a method is kept: it passed the validation, nothing else is declared for its pair, its
name does not clash, and it writes no path twice. -/
structure IsKept (declared : List DeclaredMethod) (methods : List UpdateMethod)
    (method : UpdateMethod) : Prop where
  valid : method ∈ methods
  pair : (declaring declared method.pair).length ≤ 1
  name : method.inherent = true ∨ traitClash? declared method.methodName = none
  candidate : method ∈ candidates declared methods
  paths : repeatedPaths method = []

theorem isKept_of_mem_aggregate (config : GeneratorConfig)
    (h : Declares source declared methods) {method : UpdateMethod}
    (hmem : method ∈ (aggregate methods declared config).methods) :
    IsKept declared methods method := by
  rcases mem_aggregate.mp hmem with ⟨hcandidate, hpaths⟩
  rcases mem_candidates.mp hcandidate with ⟨original, hfilter, hpair, hname, hsorted⟩
  have horiginal := (pair_of_filter_eq hfilter).1
  rw [sortedBindings_of_isPlaced (h.placed original horiginal).1] at hsorted
  subst hsorted
  refine ⟨horiginal, ?_, hname, hcandidate, hpaths⟩
  simpa [isAmbiguousPair] using hpair

theorem not_pointsAt_of_isKept (h : Declares source declared methods) {method : UpdateMethod}
    (hkept : IsKept declared methods method) {diagnostic : Diagnostic}
    (hmem : diagnostic ∈ (aggregate methods declared config).diagnostics) :
    ¬ diagnostic.location.PointsAt method.key := by
  intro hpoints
  rcases List.mem_append.mp hmem with hmarkers | hpaths
  · rcases List.mem_append.mp hmarkers with hpairs | htraits
    · rcases exists_of_mem_pairDiagnostics hpairs with ⟨marker, hmarker, hambiguous, hlocation⟩
      rw [hlocation] at hpoints
      have hkey := (h.located marker hmarker).unique hpoints
      have hpair : marker.pair = method.pair := congrArg MethodKey.pair hkey
      have hlength := hkept.pair
      rw [hpair] at hambiguous
      have hmany : 1 < (declaring declared method.pair).length := by
        simpa [isAmbiguousPair] using hambiguous
      omega
    · rcases exists_of_mem_traitDiagnostics htraits with
        ⟨clash, hclash, hmode, hsome, hlocation⟩
      rw [hlocation] at hpoints
      have hkey := (h.located clash hclash).unique hpoints
      have hpair : clash.pair = method.pair := congrArg MethodKey.pair hkey
      have hname : clash.methodName = method.methodName := congrArg Prod.snd hpair
      rcases h.marked method hkept.valid with ⟨marker, hmarker, hpair', hmode'⟩
      have hsame : clash = marker :=
        eq_of_mem_of_length_le_one hkept.pair
          (List.mem_filter.mpr ⟨hclash, by simp [hpair]⟩)
          (List.mem_filter.mpr ⟨hmarker, by simp [hpair']⟩)
      rw [← hsame, hmode] at hmode'
      rcases hkept.name with hinherent | hnone
      · rw [hinherent] at hmode'
        cases hmode'
      · rw [hname] at hsome
        exact hsome hnone
  · rcases exists_of_mem_pathDiagnostics hpaths with ⟨other, hother, hrepeated, hlocation⟩
    rw [hlocation] at hpoints
    have hkey := (isPlaced_of_mem_candidates h hother).1.location.unique hpoints
    have hsame : other = method :=
      List.inj_on_of_nodup_map (List.pairwise_map.mpr (candidates_pairwise declared methods))
        hother hkept.candidate (congrArg MethodKey.pair hkey)
    rw [hsame] at hrepeated
    exact hrepeated hkept.paths

end Aggregation

/-!
# Methods that a source brings forward
-/

namespace UnitAnalysis

variable {table : TypeTable} {config : GeneratorConfig} {source : TypeInfo}

theorem mem_diagnostics {diagnostic : Diagnostic} :
    diagnostic ∈ (ofSource table config source).diagnostics ↔
      (exists spec, spec ∈ (resolve source table config).unmatched
          ∧ diagnostic = spec.diagnostic)
        ∨ (exists resolved, resolved ∈ (resolve source table config).methods
            ∧ diagnostic ∈ resolved.diagnostics source table)
        ∨ diagnostic ∈ (aggregate (validate source (resolve source table config) table).methods
            (resolve source table config).declared config).diagnostics := by
  simp only [ofSource, validate, List.mem_append, List.mem_map, List.mem_flatMap, or_assoc,
    eq_comm]

theorem isPlaced_of_mem_resolve {resolved : ResolvedMethod}
    (hmem : resolved ∈ (resolve source table config).methods) :
    resolved.IsPlaced ∧ resolved.sourceType = source.name := by
  rcases List.mem_map.mp hmem with ⟨marker, _hmarker, rfl⟩
  exact ⟨Resolution.method_isPlaced source table config marker, rfl⟩

theorem sourceType_of_mem_unmatched {spec : UnmatchedSpec}
    (hmem : spec ∈ (resolve source table config).unmatched) :
    spec.location.sourceType = source.name := by
  rcases List.mem_filterMap.mp hmem with ⟨slot, _hslot, hsome⟩
  rcases Option.bind_eq_some_iff.mp hsome with ⟨written, _hwritten, hsome⟩
  rcases Option.bind_eq_some_iff.mp hsome with ⟨named, _hnamed, hsome⟩
  split at hsome
  · cases hsome
  · cases hsome
    rfl

theorem sourceType_of_mem_diagnostics {diagnostic : Diagnostic}
    (hmem : diagnostic ∈ (ofSource table config source).diagnostics) :
    diagnostic.location.sourceType = source.name := by
  rcases mem_diagnostics.mp hmem with
    ⟨spec, hspec, rfl⟩ | ⟨resolved, hresolved, hreported⟩ | haggregated
  · exact sourceType_of_mem_unmatched hspec
  · rcases isPlaced_of_mem_resolve hresolved with ⟨hplaced, hsource⟩
    exact (ResolvedMethod.pointsAt_of_mem_diagnostics hplaced hreported).2.2.trans hsource
  · rcases Aggregation.exists_pointsAt_of_mem_diagnostics (validate_declares source table config)
      haggregated with ⟨target, name, hpoints⟩
    exact hpoints.2.2

theorem not_pointsAt_of_mem_resolve {method : UpdateMethod} {resolved : ResolvedMethod}
    (hvalid : method ∈ (validate source (resolve source table config) table).methods)
    (hpair : (Aggregation.declaring (resolve source table config).declared
      method.pair).length ≤ 1)
    (hresolved : resolved ∈ (resolve source table config).methods) {diagnostic : Diagnostic}
    (hmem : diagnostic ∈ resolved.diagnostics source table) (herror : diagnostic.isError = true) :
    ¬ diagnostic.location.PointsAt method.key := by
  intro hpoints
  rcases Validation.mem_validate_methods.mp hvalid with ⟨own, hown, haccepted, rfl⟩
  have hplaced := (isPlaced_of_mem_resolve hresolved).1
  have hkey := (ResolvedMethod.pointsAt_of_mem_diagnostics hplaced hmem).unique hpoints
  have hsame : (DeclaredMethod.ofResolved resolved).pair = own.toUpdateMethod.pair :=
    congrArg MethodKey.pair hkey
  have hlength : ((resolve source table config).methods.filter
      (fun other => (DeclaredMethod.ofResolved other).pair == own.toUpdateMethod.pair)).length
        ≤ 1 := by
    rw [Resolution.declared, Aggregation.declaring, List.filter_map, List.length_map] at hpair
    exact hpair
  have heq : resolved = own :=
    eq_of_mem_of_length_le_one hlength
      (List.mem_filter.mpr ⟨hresolved, by simp [hsame]⟩)
      (List.mem_filter.mpr ⟨hown, beq_self_eq_true _⟩)
  rw [heq] at hmem
  have hany : (own.diagnostics source table).any Diagnostic.isError = true :=
    List.any_eq_true.mpr ⟨diagnostic, hmem, herror⟩
  rw [ResolvedMethod.accepted, hany] at haccepted
  cases haccepted

theorem not_pointsAt_of_isError {method : UpdateMethod}
    (hmethod : method ∈ (ofSource table config source).methods) {diagnostic : Diagnostic}
    (hmem : diagnostic ∈ (ofSource table config source).diagnostics)
    (herror : diagnostic.isError = true) : ¬ diagnostic.location.PointsAt method.key := by
  have hdeclares := validate_declares source table config
  have hkept := Aggregation.isKept_of_mem_aggregate config hdeclares hmethod
  rcases mem_diagnostics.mp hmem with
    ⟨spec, hspec, rfl⟩ | ⟨resolved, hresolved, hreported⟩ | haggregated
  · cases herror
  · exact not_pointsAt_of_mem_resolve hkept.valid hkept.pair hresolved hreported herror
  · exact Aggregation.not_pointsAt_of_isKept hdeclares hkept haggregated

end UnitAnalysis

/-!
# Methods that an analysis keeps
-/

namespace Analysis

variable {table : TypeTable} {config : GeneratorConfig}

theorem mem_diagnostics {diagnostic : Diagnostic} :
    diagnostic ∈ (analyze table config false).diagnostics ↔
      (exists source, source ∈ table.sources
          ∧ diagnostic ∈ (UnitAnalysis.ofSource table config source).diagnostics)
        ∨ exists late, late ∈ (claim [] (sortMethods (unitMethods table config))).2
            ∧ diagnostic = lateDiagnostic late := by
  simp only [analyze_diagnostics, Diagnostic.sort, List.mem_mergeSort, List.mem_append,
    List.mem_flatMap, List.mem_map, eq_comm]

theorem key_ne_of_late (config : GeneratorConfig) (hnodup : table.names.Nodup)
    {method late : UpdateMethod} (hmethod : method ∈ (analyze table config false).methods)
    (hlate : late ∈ (claim [] (sortMethods (unitMethods table config))).2) :
    late.key ≠ method.key := by
  intro hkey
  rcases (exists_claimant [] (sortMethods_ascending config hnodup) hlate) with
    ⟨hinherent, hclaimed | ⟨first, hfirst, hmode, hpair, hprecedes⟩⟩
  · cases hclaimed
  · have hunit := mem_sortMethods.mp ((claim_late_sublist _ _).subset hlate)
    have hsame : late = method :=
      List.inj_on_of_nodup_map (nodup_unitMethods_keys config hnodup) hunit
        (mem_unitMethods_of_mem_analyze hmethod) hkey
    rw [analyze_methods, ← hsame] at hmethod
    have heq := eq_of_kept hfirst hmode hmethod hinherent hpair
    rw [heq] at hprecedes
    exact hprecedes.2 rfl

/-- No error of an analysis points at a method that the analysis keeps. -/
theorem not_pointsAt_of_isError (hnodup : table.names.Nodup) {method : UpdateMethod}
    (hmethod : method ∈ (analyze table config false).methods) {diagnostic : Diagnostic}
    (hmem : diagnostic ∈ (analyze table config false).diagnostics)
    (herror : diagnostic.isError = true) : ¬ diagnostic.location.PointsAt method.key := by
  intro hpoints
  have hunit := mem_unitMethods_of_mem_analyze hmethod
  rcases mem_diagnostics.mp hmem with ⟨source, hsource, hreported⟩ | ⟨late, hlate, rfl⟩
  · rcases List.mem_flatMap.mp hunit with ⟨own, hown, hmethod'⟩
    have hname : source.name = own.name := by
      rw [← UnitAnalysis.sourceType_of_mem_diagnostics hreported,
        ← (UnitAnalysis.isPlaced_of_mem hmethod').2]
      exact hpoints.2.2
    have hsame : source = own :=
      List.inj_on_of_nodup_map (List.pairwise_map.mpr (TypeTable.sources_pairwise hnodup))
        hsource hown hname
    rw [hsame] at hreported
    exact UnitAnalysis.not_pointsAt_of_isError hmethod' hreported herror hpoints
  · have hlate' := mem_sortMethods.mp ((claim_late_sublist _ _).subset hlate)
    rcases List.mem_flatMap.mp hlate' with ⟨own, _hown, hmethod'⟩
    have hplaced := (UnitAnalysis.isPlaced_of_mem hmethod').1
    exact key_ne_of_late config hnodup hmethod hlate (hplaced.location.unique hpoints)

end Analysis
end PartialUpdate
