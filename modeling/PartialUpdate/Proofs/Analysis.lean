import Mathlib.Data.List.Permutation
import PartialUpdate.Proofs.Aggregation

/-!
# The order and the uniqueness of an analysis

The methods of all sources ascend strictly by target, method and source.  Of several sources
that give a target one function the first by name keeps it, and no method is given up without
an error.
-/

namespace PartialUpdate

namespace MethodKey

def Precedes (a b : MethodKey) : Prop := le a b = true ∧ a ≠ b

instance (a b : MethodKey) : Decidable (Precedes a b) :=
  inferInstanceAs (Decidable (_ ∧ _))

theorem le_of_pair_eq {a b : UpdateMethod} (hpair : a.pair = b.pair) :
    le a.key b.key = Ordered.textLe a.sourceType b.sourceType := by
  have htarget : a.targetType = b.targetType := congrArg Prod.fst hpair
  have hmethod : a.methodName = b.methodName := congrArg Prod.snd hpair
  simp [le, UpdateMethod.key, htarget, hmethod]

end MethodKey

namespace Analysis

/-!
# Claims on pairs
-/

theorem claim_kept_sublist (claimed : List (String × String)) (methods : List UpdateMethod) :
    (claim claimed methods).1.Sublist methods := by
  induction methods generalizing claimed with
  | nil => exact List.Sublist.refl _
  | cons method rest ih =>
      unfold claim
      split
      · exact (ih _).cons method
      · exact (ih _).cons_cons method

theorem claim_late_sublist (claimed : List (String × String)) (methods : List UpdateMethod) :
    (claim claimed methods).2.Sublist methods := by
  induction methods generalizing claimed with
  | nil => exact List.Sublist.refl _
  | cons method rest ih =>
      unfold claim
      split
      · exact (ih _).cons_cons method
      · exact (ih _).cons method

theorem mem_claim (claimed : List (String × String)) {methods : List UpdateMethod}
    {method : UpdateMethod} (hmem : method ∈ methods) :
    method ∈ (claim claimed methods).1 ∨ method ∈ (claim claimed methods).2 := by
  induction methods generalizing claimed with
  | nil => cases hmem
  | cons head rest ih =>
      unfold claim
      rcases List.mem_cons.mp hmem with rfl | hrest
      · split
        · exact Or.inr List.mem_cons_self
        · exact Or.inl List.mem_cons_self
      · split
        · rcases ih claimed hrest with hkept | hlate
          · exact Or.inl hkept
          · exact Or.inr (List.mem_cons_of_mem _ hlate)
        · rcases ih _ hrest with hkept | hlate
          · exact Or.inl (List.mem_cons_of_mem _ hkept)
          · exact Or.inr hlate

theorem claim_pair_not_mem (claimed : List (String × String)) {methods : List UpdateMethod}
    {method : UpdateMethod} (hmem : method ∈ (claim claimed methods).1)
    (hinherent : method.inherent = true) : method.pair ∉ claimed := by
  induction methods generalizing claimed with
  | nil => cases hmem
  | cons head rest ih =>
      unfold claim at hmem
      split at hmem
      · exact ih claimed hmem
      · rename_i hfree
        rcases List.mem_cons.mp hmem with rfl | hrest
        · intro hclaimed
          apply hfree
          simp [hinherent, hclaimed]
        · have hnot := ih _ hrest
          intro hclaimed
          apply hnot
          split
          · exact List.mem_cons_of_mem _ hclaimed
          · exact hclaimed

theorem claim_kept_pairwise (claimed : List (String × String)) (methods : List UpdateMethod) :
    ((claim claimed methods).1.filter (fun method => method.inherent)).Pairwise
      (fun a b => a.pair ≠ b.pair) := by
  induction methods generalizing claimed with
  | nil => exact List.Pairwise.nil
  | cons head rest ih =>
      unfold claim
      split
      · exact ih claimed
      · cases hinherent : head.inherent with
        | false =>
            rw [List.filter_cons_of_neg (by simp [hinherent])]
            exact ih _
        | true =>
            rw [List.filter_cons_of_pos (by simp [hinherent])]
            refine List.Pairwise.cons ?_ (ih _)
            intro other hother hpair
            rcases List.mem_filter.mp hother with ⟨hkept, hmode⟩
            apply claim_pair_not_mem _ hkept hmode
            rw [if_pos rfl, ← hpair]
            exact List.mem_cons_self

/-- What is late found its pair claimed, by an earlier method unless it was so from the start. -/
theorem exists_claimant {R : UpdateMethod -> UpdateMethod -> Prop}
    (claimed : List (String × String)) {methods : List UpdateMethod} (hsorted : methods.Pairwise R)
    {method : UpdateMethod} (hmem : method ∈ (claim claimed methods).2) :
    method.inherent = true ∧ (method.pair ∈ claimed ∨
      exists kept, kept ∈ (claim claimed methods).1 ∧ kept.inherent = true
        ∧ kept.pair = method.pair ∧ R kept method) := by
  induction methods generalizing claimed with
  | nil => cases hmem
  | cons head rest ih =>
      rcases List.pairwise_cons.mp hsorted with ⟨hhead, hrest⟩
      unfold claim at hmem ⊢
      split at hmem
      · rename_i htaken
        rw [if_pos htaken]
        rcases List.mem_cons.mp hmem with rfl | hlate
        · have htaken : method.inherent = true ∧ method.pair ∈ claimed := by
            simpa using htaken
          exact ⟨htaken.1, Or.inl htaken.2⟩
        · exact ih claimed hrest hlate
      · rename_i hfree
        rw [if_neg hfree]
        rcases ih _ hrest hmem with ⟨hinherent, hclaimed | ⟨kept, hkept, hmode, hpair, hR⟩⟩
        · refine ⟨hinherent, ?_⟩
          split at hclaimed
          · rename_i hmode
            rcases List.mem_cons.mp hclaimed with hpair | hclaimed
            · have hlate := (claim_late_sublist _ rest).subset hmem
              exact Or.inr ⟨head, List.mem_cons_self, hmode, hpair.symm, hhead method hlate⟩
            · exact Or.inl hclaimed
          · exact Or.inl hclaimed
        · exact ⟨hinherent, Or.inr ⟨kept, List.mem_cons_of_mem _ hkept, hmode, hpair, hR⟩⟩

end Analysis

/-!
# Methods of all sources
-/

namespace UnitAnalysis

variable {table : TypeTable} {config : GeneratorConfig} {source : TypeInfo}

theorem isPlaced_of_mem {method : UpdateMethod}
    (hmem : method ∈ (ofSource table config source).methods) :
    method.IsPlaced ∧ method.sourceType = source.name := by
  have hdeclares := validate_declares source table config
  have hmem : method ∈ (aggregate (validate source (resolve source table config) table).methods
      (resolve source table config).declared config).methods := hmem
  exact hdeclares.placed method (Aggregation.mem_of_mem_aggregate hdeclares hmem)

theorem methods_pairwise :
    (ofSource table config source).methods.Pairwise (fun a b => a.pair ≠ b.pair) :=
  Aggregation.aggregate_pairwise _ _ config

theorem trait_pairwise :
    ((ofSource table config source).methods.filter (fun method => !method.inherent)).Pairwise
      (fun a b => a.methodName ≠ b.methodName) :=
  Aggregation.aggregate_trait_pairwise config (validate_declares source table config)

end UnitAnalysis

namespace TypeTable

theorem sources_pairwise {table : TypeTable} (h : table.names.Nodup) :
    table.sources.Pairwise (fun a b => a.name ≠ b.name) :=
  (List.pairwise_map.mp h).filter _

theorem mem_sources {table : TypeTable} {source : TypeInfo} (hmem : source ∈ table.types)
    {marker : MarkerSpec} (hmarker : marker ∈ source.markers) : source ∈ table.sources := by
  apply List.mem_filter.mpr
  refine ⟨hmem, ?_⟩
  cases hmarkers : source.markers with
  | nil =>
      rw [hmarkers] at hmarker
      cases hmarker
  | cons first rest => simp [TypeInfo.isSource, hmarkers]

end TypeTable

namespace Analysis

variable {table : TypeTable} {config : GeneratorConfig}

/-- What comes out of the sources of a table, before they meet. -/
def unitMethods (table : TypeTable) (config : GeneratorConfig) : List UpdateMethod :=
  table.sources.flatMap (fun source => (UnitAnalysis.ofSource table config source).methods)

theorem analyze_methods (table : TypeTable) (config : GeneratorConfig) :
    (analyze table config false).methods = (claim [] (sortMethods (unitMethods table config))).1 := by
  simp only [analyze, ofSourcesUnless, ofSources, merge, unitMethods, List.flatMap_map,
    Bool.false_eq_true, if_false]

theorem analyze_diagnostics (table : TypeTable) (config : GeneratorConfig) :
    (analyze table config false).diagnostics =
      Diagnostic.sort
        (table.sources.flatMap
            (fun source => (UnitAnalysis.ofSource table config source).diagnostics)
          ++ (claim [] (sortMethods (unitMethods table config))).2.map lateDiagnostic) := by
  simp only [analyze, ofSourcesUnless, ofSources, merge, unitMethods, List.flatMap_map,
    Bool.false_eq_true, if_false]

theorem sortMethods_of_perm {methods sorted : List UpdateMethod} (hperm : methods.Perm sorted)
    (hsorted : sorted.Pairwise (fun a b => MethodKey.Precedes a.key b.key)) :
    sortMethods methods = sorted :=
  Ordered.sort_eq_of_pairwise Ordered.methodKeyLe_isLinear UpdateMethod.key hperm hsorted

theorem merge_of_perm {units : List UnitAnalysis} {sorted : List UpdateMethod}
    (hperm : (units.flatMap UnitAnalysis.methods).Perm sorted)
    (hsorted : sorted.Pairwise (fun a b => MethodKey.Precedes a.key b.key)) :
    merge units =
      ⟨(claim [] sorted).1,
        Diagnostic.sort (units.flatMap UnitAnalysis.diagnostics
          ++ (claim [] sorted).2.map lateDiagnostic), []⟩ := by
  rw [merge, sortMethods_of_perm hperm hsorted]

theorem merge_of_single {units : List UnitAnalysis} {method : UpdateMethod}
    (hmethods : units.flatMap UnitAnalysis.methods = [method]) :
    merge units =
      ⟨[method], Diagnostic.sort (units.flatMap UnitAnalysis.diagnostics), []⟩ := by
  have hclaim : claim [] [method] = ([method], []) := by
    simp [claim]
  rw [merge_of_perm (List.Perm.of_eq hmethods) (List.pairwise_singleton _ _), hclaim,
    List.map_nil, List.append_nil]

theorem merge_singleton (method : UpdateMethod) :
    merge [⟨[method], []⟩] = ⟨[method], [], []⟩ := by
  have hsort : Diagnostic.sort [] = [] := List.mergeSort_nil
  rw [merge_of_single rfl]
  exact congrArg (fun diagnostics => Analysis.mk [method] diagnostics []) hsort

theorem ofSource_of_single {source : TypeInfo} {resolved : ResolvedMethod} {method : UpdateMethod}
    (hresolve : resolve source table config = ⟨[resolved], []⟩)
    (hvalidate : validate source ⟨[resolved], []⟩ table = ⟨[method], []⟩)
    (hpaths : Aggregation.repeatedPaths method = []) :
    UnitAnalysis.ofSource table config source = ⟨[method], []⟩ := by
  have hplaced : method.IsPlaced := by
    have hmem : method ∈ (validate source (resolve source table config) table).methods := by
      rw [hresolve, hvalidate]
      exact List.mem_singleton_self method
    exact (Validation.isPlaced_of_mem_validate hmem).1
  have hdeclared : Resolution.declared ⟨[resolved], []⟩ = [DeclaredMethod.ofResolved resolved] :=
    rfl
  simp [UnitAnalysis.ofSource, hresolve, hvalidate, hdeclared,
    Aggregation.aggregate_singleton _ hplaced hpaths]

theorem ofSource_of_dropped {source : TypeInfo} {resolved : ResolvedMethod}
    {diagnostics : List Diagnostic}
    (hresolve : resolve source table config = ⟨[resolved], []⟩)
    (hvalidate : validate source ⟨[resolved], []⟩ table = ⟨[], diagnostics⟩) :
    UnitAnalysis.ofSource table config source = ⟨[], diagnostics⟩ := by
  have hdeclared : Resolution.declared ⟨[resolved], []⟩ = [DeclaredMethod.ofResolved resolved] :=
    rfl
  simp [UnitAnalysis.ofSource, hresolve, hvalidate, hdeclared, Aggregation.aggregate_dropped]

theorem analyze_of_single {source : TypeInfo} {resolved : ResolvedMethod} {method : UpdateMethod}
    (hsources : table.sources = [source])
    (hresolve : resolve source table config = ⟨[resolved], []⟩)
    (hvalidate : validate source ⟨[resolved], []⟩ table = ⟨[method], []⟩)
    (hpaths : Aggregation.repeatedPaths method = []) :
    analyze table config false = ⟨[method], [], []⟩ := by
  rw [analyze, ofSourcesUnless, if_neg Bool.false_ne_true, ofSources, hsources,
    List.map_singleton, ofSource_of_single hresolve hvalidate hpaths, merge_singleton]

theorem mem_sortMethods {methods : List UpdateMethod} {method : UpdateMethod} :
    method ∈ sortMethods methods ↔ method ∈ methods :=
  List.mem_mergeSort

theorem nodup_unitMethods_keys (config : GeneratorConfig) (h : table.names.Nodup) :
    ((unitMethods table config).map UpdateMethod.key).Nodup := by
  apply List.pairwise_map.mpr
  apply List.pairwise_flatMap.mpr
  constructor
  · intro source _hsource
    apply UnitAnalysis.methods_pairwise.imp
    intro a b hpair hkey
    apply hpair
    have htarget : a.targetType = b.targetType := congrArg Prod.fst hkey
    have hmethod : a.methodName = b.methodName := congrArg (fun key => key.2.1) hkey
    exact Prod.ext htarget hmethod
  · apply (TypeTable.sources_pairwise h).imp
    intro source source' hname a ha b hb hkey
    apply hname
    rw [← (UnitAnalysis.isPlaced_of_mem ha).2, ← (UnitAnalysis.isPlaced_of_mem hb).2]
    exact congrArg (fun key => key.2.2) hkey

theorem sortMethods_ascending (config : GeneratorConfig) (h : table.names.Nodup) :
    (sortMethods (unitMethods table config)).Pairwise
      (fun a b => MethodKey.Precedes a.key b.key) :=
  Ordered.pairwise_sort_of_nodup Ordered.methodKeyLe_isLinear UpdateMethod.key
    (nodup_unitMethods_keys config h)

theorem mem_unitMethods_of_mem_analyze {method : UpdateMethod}
    (hmem : method ∈ (analyze table config false).methods) :
    method ∈ unitMethods table config := by
  rw [analyze_methods] at hmem
  exact mem_sortMethods.mp ((claim_kept_sublist _ _).subset hmem)

theorem isPlaced_of_mem_analyze {method : UpdateMethod}
    (hmem : method ∈ (analyze table config false).methods) : method.IsPlaced := by
  rcases List.mem_flatMap.mp (mem_unitMethods_of_mem_analyze hmem) with
    ⟨source, _hsource, hmethod⟩
  exact (UnitAnalysis.isPlaced_of_mem hmethod).1

theorem analyze_ascending (config : GeneratorConfig) (h : table.names.Nodup) :
    (analyze table config false).methods.Pairwise
      (fun a b => MethodKey.Precedes a.key b.key) := by
  rw [analyze_methods]
  exact (sortMethods_ascending config h).sublist (claim_kept_sublist _ _)

theorem eq_of_kept {claimed : List (String × String)} {methods : List UpdateMethod}
    {a b : UpdateMethod} (ha : a ∈ (claim claimed methods).1) (hmodeA : a.inherent = true)
    (hb : b ∈ (claim claimed methods).1) (hmodeB : b.inherent = true) (hpair : a.pair = b.pair) :
    a = b :=
  List.inj_on_of_nodup_map (List.pairwise_map.mpr (claim_kept_pairwise claimed methods))
    (List.mem_filter.mpr ⟨ha, hmodeA⟩) (List.mem_filter.mpr ⟨hb, hmodeB⟩) hpair

/-- Of the functions with one pair the one whose source is first by name is kept. -/
theorem mem_analyze_iff_first (h : table.names.Nodup) {method : UpdateMethod}
    (hmem : method ∈ unitMethods table config) (hinherent : method.inherent = true) :
    method ∈ (analyze table config false).methods ↔
      forall other, other ∈ unitMethods table config -> other.inherent = true ->
        other.pair = method.pair ->
          Ordered.textLe method.sourceType other.sourceType = true := by
  have hlinear := Ordered.textLe_isLinear
  have hsorted := sortMethods_ascending config h
  rw [analyze_methods]
  constructor
  · intro hkept other hother hmode hpair
    rcases mem_claim [] (mem_sortMethods.mpr hother) with hkept' | hlate
    · rw [eq_of_kept hkept' hmode hkept hinherent hpair]
      exact hlinear.le_refl _
    · rcases (exists_claimant [] hsorted hlate).2 with hclaimed | ⟨first, hfirst, hmode', hpair', hle⟩
      · cases hclaimed
      · have heq := eq_of_kept hfirst hmode' hkept hinherent (hpair'.trans hpair)
        rw [heq] at hle
        rw [← MethodKey.le_of_pair_eq hpair.symm]
        exact hle.1
  · intro hfirst
    rcases mem_claim [] (mem_sortMethods.mpr hmem) with hkept | hlate
    · exact hkept
    · rcases (exists_claimant [] hsorted hlate).2 with hclaimed | ⟨rival, hrival, hmode, hpair, hle⟩
      · cases hclaimed
      · have hrival' := mem_sortMethods.mp ((claim_kept_sublist _ _).subset hrival)
        have hge := hfirst rival hrival' hmode hpair
        rw [← MethodKey.le_of_pair_eq hpair.symm] at hge
        exact absurd (Ordered.methodKeyLe_isLinear.antisymm _ _ hle.1 hge) hle.2

theorem trait_pairwise_unitMethods (config : GeneratorConfig) (h : table.names.Nodup) :
    ((unitMethods table config).filter (fun method => !method.inherent)).Pairwise
      (fun a b => ¬ (a.sourceType = b.sourceType ∧ a.methodName = b.methodName)) := by
  rw [unitMethods, List.filter_flatMap]
  apply List.pairwise_flatMap.mpr
  constructor
  · intro source _hsource
    apply UnitAnalysis.trait_pairwise.imp
    intro a b hne hsame
    exact hne hsame.2
  · apply (TypeTable.sources_pairwise h).imp
    intro source source' hname a ha b hb hsame
    apply hname
    have ha := (List.mem_filter.mp ha).1
    have hb := (List.mem_filter.mp hb).1
    rw [← (UnitAnalysis.isPlaced_of_mem ha).2, ← (UnitAnalysis.isPlaced_of_mem hb).2]
    exact hsame.1

theorem analyze_trait_pairwise (config : GeneratorConfig) (h : table.names.Nodup) :
    ((analyze table config false).methods.filter (fun method => !method.inherent)).Pairwise
      (fun a b => ¬ (a.sourceType = b.sourceType ∧ a.methodName = b.methodName)) := by
  rw [analyze_methods]
  have hkept := (claim_kept_sublist [] (sortMethods (unitMethods table config))).filter
    (fun method => !method.inherent)
  have hperm := (List.mergeSort_perm (unitMethods table config)
    (fun a b => MethodKey.le a.key b.key)).filter (fun method => !method.inherent)
  have hsorted := (hperm.pairwise_iff (by
    intro a b hab hba
    exact hab ⟨hba.1.symm, hba.2.symm⟩)).mpr (trait_pairwise_unitMethods config h)
  exact hsorted.sublist hkept

theorem analyze_diagnostics_ascending (table : TypeTable) (config : GeneratorConfig) :
    (analyze table config false).diagnostics.Pairwise
      (fun a b => Ordered.keyLe a.sortKey b.sortKey = true) := by
  rw [analyze_diagnostics]
  exact Ordered.pairwise_sort Ordered.keyLe_isLinear Diagnostic.sortKey _

/-!
# Markers
-/

def markerKey (config : GeneratorConfig) (source : TypeInfo) (marker : MarkerSpec) : MethodKey :=
  (simpleTypeName marker.targetType, config.markerMethod marker, source.name)

theorem mem_diagnostics_of_unit {source : TypeInfo} (hsource : source ∈ table.sources)
    {diagnostic : Diagnostic}
    (hmem : diagnostic ∈ (UnitAnalysis.ofSource table config source).diagnostics) :
    diagnostic ∈ (analyze table config false).diagnostics := by
  rw [analyze_diagnostics, Diagnostic.sort, List.mem_mergeSort]
  exact List.mem_append_left _ (List.mem_flatMap.mpr ⟨source, hsource, hmem⟩)

theorem mem_unitMethods_or_blamed (config : GeneratorConfig) {source : TypeInfo}
    (hsource : source ∈ table.sources) {marker : MarkerSpec}
    (hmarker : marker ∈ source.markers) :
    (Resolution.method source table config marker).toUpdateMethod ∈ unitMethods table config
      ∨ exists diagnostic, diagnostic ∈ (analyze table config false).diagnostics
          ∧ diagnostic.Blames source.name (config.markerMethod marker) := by
  have hplaced := Resolution.method_isPlaced source table config marker
  have hresolved :
      Resolution.method source table config marker ∈ (resolve source table config).methods :=
    List.mem_map_of_mem hmarker
  cases haccepted : (Resolution.method source table config marker).accepted source table with
  | false =>
      rcases ResolvedMethod.exists_error_of_not_accepted hplaced haccepted with
        ⟨diagnostic, hdiagnostic, hblames⟩
      refine Or.inr ⟨diagnostic, mem_diagnostics_of_unit hsource ?_, hblames⟩
      apply List.mem_append_left
      apply List.mem_append_right
      exact List.mem_flatMap.mpr ⟨_, hresolved, hdiagnostic⟩
  | true =>
      have hdeclares := validate_declares source table config
      have hvalid := Validation.mem_validate_methods.mpr ⟨_, hresolved, haccepted, rfl⟩
      rcases Aggregation.mem_aggregate_or_blamed config hdeclares hvalid with
        hkept | ⟨diagnostic, hdiagnostic, hblames⟩
      · exact Or.inl (List.mem_flatMap.mpr ⟨source, hsource, hkept⟩)
      · refine Or.inr ⟨diagnostic, mem_diagnostics_of_unit hsource ?_, hblames⟩
        exact List.mem_append_right _ hdiagnostic

/-- What a marker declares is a method of the analysis, or an error blames it. -/
theorem mem_analyze_or_blamed (config : GeneratorConfig) {source : TypeInfo}
    (hsource : source ∈ table.types) {marker : MarkerSpec}
    (hmarker : marker ∈ source.markers) :
    (exists method, method ∈ (analyze table config false).methods
        ∧ method.key = markerKey config source marker
        ∧ method.inherent = config.defaults.requiresExtensible marker)
      ∨ exists diagnostic, diagnostic ∈ (analyze table config false).diagnostics
          ∧ diagnostic.Blames source.name (config.markerMethod marker) := by
  let method := (Resolution.method source table config marker).toUpdateMethod
  have hplaced : method.IsPlaced :=
    ResolvedMethod.toUpdateMethod_isPlaced
      (Resolution.method_isPlaced source table config marker)
  rcases mem_unitMethods_or_blamed config (TypeTable.mem_sources hsource hmarker) hmarker with
    hunit | hblamed
  · rcases mem_claim [] (mem_sortMethods.mpr hunit) with hkept | hlate
    · refine Or.inl ⟨method, ?_, rfl, rfl⟩
      rw [analyze_methods]
      exact hkept
    · have hblames : (lateDiagnostic method).Blames source.name (config.markerMethod marker) :=
        Diagnostic.blames_of_pointsAt rfl hplaced.location
      refine Or.inr ⟨lateDiagnostic method, ?_, hblames⟩
      rw [analyze_diagnostics, Diagnostic.sort, List.mem_mergeSort]
      exact List.mem_append_right _ (List.mem_map_of_mem hlate)
  · exact Or.inr hblamed

/-!
# The form of an analysis
-/

/-- What an analysis keeps to, whatever the sources of the table declare. -/
structure IsCanonical (table : TypeTable) (config : GeneratorConfig) (analysis : Analysis) :
    Prop where
  methods_ascending : analysis.methods.Pairwise (fun a b => MethodKey.Precedes a.key b.key)
  functions_distinct : (analysis.methods.filter (fun method => method.inherent)).Pairwise
    (fun a b => a.pair ≠ b.pair)
  /-- Of the functions that sources bring forward for one pair, the one of the first source by
  name is kept and no other one. -/
  functions_first : forall method, method ∈ unitMethods table config ->
    method.inherent = true ->
      (method ∈ analysis.methods ↔
        forall other, other ∈ unitMethods table config -> other.inherent = true ->
          other.pair = method.pair -> Ordered.textLe method.sourceType other.sourceType = true)
  trait_names_distinct : (analysis.methods.filter (fun method => !method.inherent)).Pairwise
    (fun a b => ¬ (a.sourceType = b.sourceType ∧ a.methodName = b.methodName))
  bindings_ascending : forall method, method ∈ analysis.methods ->
    method.bindings.Pairwise (fun a b => a.order < b.order)
  /-- Reports ascend by target, method and source; one without a target or method comes first. -/
  diagnostics_ascending : analysis.diagnostics.Pairwise
    (fun a b => Ordered.keyLe a.sortKey b.sortKey = true)

theorem analyze_isCanonical (table : TypeTable) (config : GeneratorConfig)
    (h : table.names.Nodup) : IsCanonical table config (analyze table config false) where
  methods_ascending := analyze_ascending config h
  functions_distinct := by
    rw [analyze_methods]
    exact claim_kept_pairwise [] _
  functions_first := by
    intro method hmem hinherent
    exact mem_analyze_iff_first h hmem hinherent
  trait_names_distinct := analyze_trait_pairwise config h
  bindings_ascending := by
    intro method hmem
    exact (isPlaced_of_mem_analyze hmem).ascending
  diagnostics_ascending := analyze_diagnostics_ascending table config

/-- Two sources that give users one function, and one of them a method under the same name. -/
def rivals : TypeTable where
  types :=
    [{ name := "User", members := [.plain "name" .text], extensible := true },
      { name := "RenameB"
        members := [.plain "name" .text]
        markers :=
          [{ targetType := "User"
             methodName := some "rename"
             extensibleTargetRequired := some true },
            { targetType := "Group", methodName := some "rename" }] },
      { name := "RenameA"
        members := [.plain "name" .text]
        markers :=
          [{ targetType := "User"
             methodName := some "rename"
             extensibleTargetRequired := some true }] },
      { name := "Group", members := [.plain "name" .text] }]

/-- What a source of `rivals` declares for one of its targets. -/
def rivalMethod (source target : String) (inherent : Bool) : UpdateMethod where
  sourceType := source
  targetType := target
  methodName := "rename"
  bindings :=
    [{ order := 0
       source := .property "name" .text
       target := ⟨"name", .text⟩
       options := ⟨true, true, .set, true, false⟩
       expression := none
       location := ((Location.source source).withMethod target "rename").withMember (some "name") }]
  inherent := inherent
  location := (Location.source source).withMethod target "rename"

def rivalMarker (method : UpdateMethod) : DeclaredMethod :=
  ⟨method.targetType, method.methodName, method.inherent, method.location⟩

theorem units_rivals :
    rivals.sources.map (UnitAnalysis.ofSource rivals {}) =
      [⟨[rivalMethod "RenameB" "Group" false, rivalMethod "RenameB" "User" true], []⟩,
        ⟨[rivalMethod "RenameA" "User" true], []⟩] := by
  let both := [rivalMethod "RenameB" "User" true, rivalMethod "RenameB" "Group" false]
  let single := [rivalMethod "RenameA" "User" true]
  have hboth : aggregate both (both.map rivalMarker) {} =
      ⟨[rivalMethod "RenameB" "Group" false, rivalMethod "RenameB" "User" true], []⟩ := by
    cbv
  have hsingle : aggregate single (single.map rivalMarker) {} = ⟨single, []⟩ := by
    cbv
  have hunits : rivals.sources.map (UnitAnalysis.ofSource rivals {}) =
      [⟨(aggregate both (both.map rivalMarker) {}).methods,
          (aggregate both (both.map rivalMarker) {}).diagnostics⟩,
        ⟨(aggregate single (single.map rivalMarker) {}).methods,
          (aggregate single (single.map rivalMarker) {}).diagnostics⟩] := rfl
  rw [hunits, hboth, hsingle]

theorem analyze_rivals :
    analyze rivals {} false =
      ⟨[rivalMethod "RenameB" "Group" false, rivalMethod "RenameA" "User" true],
        [lateDiagnostic (rivalMethod "RenameB" "User" true)], []⟩ := by
  let units := rivals.sources.map (UnitAnalysis.ofSource rivals {})
  have hperm : (units.flatMap UnitAnalysis.methods).Perm
      [rivalMethod "RenameB" "Group" false, rivalMethod "RenameA" "User" true,
        rivalMethod "RenameB" "User" true] := by
    rw [show units = _ from units_rivals]
    exact (List.Perm.swap _ _ []).cons _
  have hsort : Diagnostic.sort [lateDiagnostic (rivalMethod "RenameB" "User" true)] =
      [lateDiagnostic (rivalMethod "RenameB" "User" true)] := List.mergeSort_singleton _
  show merge units = _
  rw [merge_of_perm hperm (by decide), show units = _ from units_rivals]
  exact congrArg (fun diagnostics => Analysis.mk _ diagnostics []) hsort

theorem analyze_isCanonical_rivals :
    rivals.names.Nodup ∧ IsCanonical rivals {} (analyze rivals {} false)
      ∧ (analyze rivals {} false).methods =
        [rivalMethod "RenameB" "Group" false, rivalMethod "RenameA" "User" true]
      ∧ (analyze rivals {} false).diagnostics =
        [lateDiagnostic (rivalMethod "RenameB" "User" true)] := by
  have hnodup : rivals.names.Nodup := by
    decide
  exact ⟨hnodup, analyze_isCanonical rivals {} hnodup, by rw [analyze_rivals],
    by rw [analyze_rivals]⟩

end Analysis
end PartialUpdate
