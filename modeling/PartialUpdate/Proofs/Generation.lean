import PartialUpdate.Generation
import PartialUpdate.Proofs.Analysis
import PartialUpdate.Proofs.Emission.Functions

/-!
# Generated code and reports

No marker is lost in silence: its function is generated, or an error blames it.  No function is
generated that an error points at.  Every generated function is listed; that every listed method
is generated holds exactly when the names of its source and of the trait can be written.
-/

namespace PartialUpdate
namespace Generation

open CodeReader (Implements key? key?_of_implements keys)
open Emission (Emits mem_written traitOf written writes_of_method_eq_ok)

/-!
# Methods that no error points at
-/

theorem mem_blamed {diagnostics : List Diagnostic} {key : MethodKey} :
    key ∈ blamed diagnostics ↔
      exists diagnostic, diagnostic ∈ diagnostics ∧ diagnostic.isError = true
        ∧ diagnostic.location.PointsAt key := by
  rcases key with ⟨target, method, source⟩
  unfold blamed
  rw [List.mem_filterMap]
  constructor
  · rintro ⟨diagnostic, hmem, hsome⟩
    split at hsome
    · rename_i herror
      split at hsome
      · rename_i htarget hmethod
        cases hsome
        exact ⟨diagnostic, hmem, herror, htarget, hmethod, rfl⟩
      · cases hsome
    · cases hsome
  · rintro ⟨diagnostic, hmem, herror, htarget, hmethod, hsource⟩
    refine ⟨diagnostic, hmem, ?_⟩
    simp only at htarget hmethod hsource
    rw [if_pos herror, htarget, hmethod, hsource]

theorem mem_withoutErrors {diagnostics : List Diagnostic} {methods : List UpdateMethod}
    {method : UpdateMethod} :
    method ∈ withoutErrors diagnostics methods ↔
      method ∈ methods ∧ method.key ∉ blamed diagnostics := by
  simp [withoutErrors, List.mem_filter]

/-- What an analysis hands to the emission. -/
def clean (table : TypeTable) (config : GeneratorConfig) : List UpdateMethod :=
  withoutErrors (analyze table config false).diagnostics (analyze table config false).methods

variable {table : TypeTable} {config : GeneratorConfig} {generation : Generation}

theorem isPlaced_of_mem_clean {method : UpdateMethod} (hmem : method ∈ clean table config) :
    method.IsPlaced :=
  Analysis.isPlaced_of_mem_analyze (mem_withoutErrors.mp hmem).1

theorem nodup_clean_keys (config : GeneratorConfig) (h : table.names.Nodup) :
    ((clean table config).map UpdateMethod.key).Nodup := by
  apply List.pairwise_map.mpr
  apply ((Analysis.analyze_ascending config h).filter _).imp
  intro a b hprecedes
  exact hprecedes.2

/-!
# Generations that succeed
-/

theorem generate_eq (table : TypeTable) (config : GeneratorConfig) :
    generate table config false = runtimePath config >>= fun runtime =>
      ofAnalysis config runtime (analyze table config false) := by
  simp only [generate, Bool.false_eq_true, if_false]

theorem generate_eq_ofAnalysis {runtime : List Token} (h : runtimePath config = .ok runtime) :
    generate table config false = ofAnalysis config runtime (analyze table config false) := by
  rw [generate_eq, h]
  rfl

/-- How a generation comes about: the clean methods are emitted, and the reports of the analysis
and of the emission stand together. -/
structure Follows (table : TypeTable) (config : GeneratorConfig) (generation : Generation)
    (emission : Emission) : Prop where
  emits : Emits config generation.code.runtime (clean table config) emission
  code : generation.code = emission.code
  diagnostics : generation.diagnostics =
    Diagnostic.sort ((analyze table config false).diagnostics ++ emission.diagnostics)
  methods : generation.methods = withoutErrors generation.diagnostics (clean table config)

theorem ofMethods_of_emitted_eq_ok {runtime : List Token} {methods : List UpdateMethod}
    {emission : Emission} (h : emitted config runtime methods = .ok emission) :
    Emission.ofMethods config runtime methods = .ok emission := by
  unfold emitted at h
  cases houtcome : Emission.ofMethods config runtime methods with
  | error name =>
      rw [houtcome] at h
      cases h
  | ok emission' =>
      rw [houtcome] at h
      cases h
      rfl

theorem exists_follows (h : generate table config false = .ok generation) :
    exists emission, Follows table config generation emission := by
  rcases bind_eq_ok h with ⟨runtime, _hruntime, hrest⟩
  rcases bind_eq_ok hrest with ⟨emission, hemitted, hdone⟩
  cases hdone
  have hemits := Emission.emits_of_ofMethods_eq_ok (ofMethods_of_emitted_eq_ok hemitted)
  exact ⟨emission, hemits.runtime.symm ▸ hemits, rfl, rfl, rfl⟩

namespace Follows

variable {emission : Emission}

theorem mem_diagnostics (h : Follows table config generation emission)
    {diagnostic : Diagnostic} :
    diagnostic ∈ generation.diagnostics ↔
      diagnostic ∈ (analyze table config false).diagnostics
        ∨ diagnostic ∈ emission.diagnostics := by
  rw [h.diagnostics, Diagnostic.sort, List.mem_mergeSort, List.mem_append]

theorem mem_keys (h : Follows table config generation emission) {key : MethodKey} :
    key ∈ keys generation.code.runtime.length generation.tokens ↔
      exists generated, generated ∈ emission.code.methods ∧ generated.declared.key = key := by
  rw [tokens, h.code, ← h.emits.mem_keys, h.emits.runtime]

theorem eq_of_pointsAt (hnodup : table.names.Nodup) {declared method : UpdateMethod}
    (hdeclared : declared ∈ clean table config) (hmethod : method ∈ clean table config)
    {location : Location} (hlocation : Emission.IsLocationOf declared location)
    (hpoints : location.PointsAt method.key) : declared = method := by
  have hown := Emission.pointsAt_of_isLocationOf (isPlaced_of_mem_clean hdeclared) hlocation
  have hkey : declared.key = method.key := by
    have htarget := Option.some.inj (hown.1.symm.trans hpoints.1)
    have hname := Option.some.inj (hown.2.1.symm.trans hpoints.2.1)
    have hsource := hown.2.2.symm.trans hpoints.2.2
    exact Prod.ext htarget (Prod.ext hname hsource)
  exact List.inj_on_of_nodup_map (nodup_clean_keys config hnodup) hdeclared hmethod hkey

theorem not_mem_blamed_of_written (h : Follows table config generation emission)
    (hnodup : table.names.Nodup) {generated : GeneratedMethod}
    (hmem : generated ∈ written (clean table config)) :
    generated.declared.key ∉ blamed generation.diagnostics := by
  intro hblamed
  have hclean := (mem_written.mp hmem).1
  rcases mem_blamed.mp hblamed with ⟨diagnostic, hdiagnostic, herror, hpoints⟩
  rcases h.mem_diagnostics.mp hdiagnostic with hanalysis | hemission
  · exact (mem_withoutErrors.mp hclean).2
      (mem_blamed.mpr ⟨diagnostic, hanalysis, herror, hpoints⟩)
  · rcases (h.emits.isError_of_mem hemission).2 with
      ⟨declared, hdeclared, hreported, hlocation⟩ | ⟨source, _hsource, _hreported, hlocation⟩
    · have heq := eq_of_pointsAt hnodup hdeclared hclean hlocation hpoints
      rw [heq, (mem_written.mp hmem).2] at hreported
      cases hreported
    · rw [hlocation] at hpoints
      cases hpoints.1

theorem mem_methods_of_written (h : Follows table config generation emission)
    (hnodup : table.names.Nodup) {generated : GeneratedMethod}
    (hmem : generated ∈ written (clean table config)) :
    generated.declared ∈ generation.methods := by
  rw [h.methods]
  exact mem_withoutErrors.mpr
    ⟨(mem_written.mp hmem).1, h.not_mem_blamed_of_written hnodup hmem⟩

theorem written_of_mem_methods (h : Follows table config generation emission)
    {method : UpdateMethod} (hmem : method ∈ generation.methods) :
    exists generated, generated ∈ written (clean table config)
      ∧ generated.declared = method := by
  rw [h.methods] at hmem
  rcases mem_withoutErrors.mp hmem with ⟨hclean, hfree⟩
  rcases h.emits.written_or_reported hclean with
    ⟨generated, hok, hwritten⟩ | ⟨diagnostic, hdiagnostic, hreported⟩
  · exact ⟨generated, hwritten, (writes_of_method_eq_ok hok).origin⟩
  · have hreport := Emission.method_reportsAt method diagnostic hreported
    have hpoints :=
      Emission.pointsAt_of_isLocationOf (isPlaced_of_mem_clean hclean) hreport.2
    exact absurd
      (mem_blamed.mpr
        ⟨diagnostic, h.mem_diagnostics.mpr (Or.inr hdiagnostic), hreport.1, hpoints⟩) hfree

theorem generated_or_blamed_of_written (h : Follows table config generation emission)
    {generated : GeneratedMethod} (hmem : generated ∈ written (clean table config)) :
    generated ∈ emission.code.methods
      ∨ exists diagnostic, diagnostic ∈ generation.diagnostics
          ∧ diagnostic.Blames generated.declared.sourceType generated.declared.methodName := by
  cases hinherent : generated.declared.inherent with
  | true =>
      refine Or.inl (h.emits.mem_code_methods.mpr ⟨hmem, ?_⟩)
      intro hown
      rw [hinherent] at hown
      cases hown
  | false =>
      have hmember := Emission.mem_members.mpr ⟨hmem, hinherent⟩
      have hsource := Emission.mem_traitSources.mpr ⟨generated, hmember, rfl⟩
      rcases h.emits.trait_or_reported hsource with
        htrait | ⟨diagnostic, hdiagnostic, hreported⟩
      · exact Or.inl (h.emits.mem_code_methods.mpr ⟨hmem, fun _ => htrait⟩)
      · have hreport :=
          Emission.extensionTrait_reportsAt config _ _ diagnostic hreported
        refine Or.inr ⟨diagnostic, h.mem_diagnostics.mpr (Or.inr hdiagnostic), hreport.1, ?_⟩
        rw [hreport.2]
        exact ⟨rfl, Or.inr rfl⟩

theorem generated_or_blamed (h : Follows table config generation emission)
    {method : UpdateMethod} (hmem : method ∈ clean table config) :
    (exists generated, generated ∈ emission.code.methods ∧ generated.declared = method)
      ∨ exists diagnostic, diagnostic ∈ generation.diagnostics
          ∧ diagnostic.Blames method.sourceType method.methodName := by
  rcases h.emits.written_or_reported hmem with
    ⟨generated, hok, hwritten⟩ | ⟨diagnostic, hdiagnostic, hreported⟩
  · have horigin := (writes_of_method_eq_ok hok).origin
    rcases h.generated_or_blamed_of_written hwritten with hgenerated | hblamed
    · exact Or.inl ⟨generated, hgenerated, horigin⟩
    · rw [horigin] at hblamed
      exact Or.inr hblamed
  · have hreport := Emission.method_reportsAt method diagnostic hreported
    have hpoints :=
      Emission.pointsAt_of_isLocationOf (isPlaced_of_mem_clean hmem) hreport.2
    exact Or.inr ⟨diagnostic, h.mem_diagnostics.mpr (Or.inr hdiagnostic),
      Diagnostic.blames_of_pointsAt hreport.1 hpoints⟩

/-- What a marker declares is generated, or an error blames it or its source. -/
theorem marker_generated_or_blamed (h : Follows table config generation emission)
    {source : TypeInfo} (hsource : source ∈ table.types) {marker : MarkerSpec}
    (hmarker : marker ∈ source.markers) :
    (exists generated, generated ∈ emission.code.methods
        ∧ generated.declared.key = Analysis.markerKey config source marker
        ∧ generated.declared.inherent = config.defaults.requiresExtensible marker)
      ∨ exists diagnostic, diagnostic ∈ generation.diagnostics
          ∧ diagnostic.Blames source.name (config.markerMethod marker) := by
  rcases Analysis.mem_analyze_or_blamed config hsource hmarker with
    ⟨method, hmethod, hkey, hinherent⟩ | ⟨diagnostic, hdiagnostic, hblames⟩
  · have hname : method.methodName = config.markerMethod marker :=
      congrArg (fun key => key.2.1) hkey
    have htype : method.sourceType = source.name := congrArg (fun key => key.2.2) hkey
    by_cases hblamed : method.key ∈ blamed (analyze table config false).diagnostics
    · rcases mem_blamed.mp hblamed with ⟨diagnostic, hdiagnostic, herror, hpoints⟩
      rw [hkey] at hpoints
      exact Or.inr ⟨diagnostic, h.mem_diagnostics.mpr (Or.inl hdiagnostic),
        Diagnostic.blames_of_pointsAt herror hpoints⟩
    · rcases h.generated_or_blamed (mem_withoutErrors.mpr ⟨hmethod, hblamed⟩) with
        ⟨generated, hgenerated, rfl⟩ | hblamed
      · exact Or.inl ⟨generated, hgenerated, hkey, hinherent⟩
      · rw [hname, htype] at hblamed
        exact Or.inr hblamed
  · exact Or.inr ⟨diagnostic, h.mem_diagnostics.mpr (Or.inl hdiagnostic), hblames⟩

end Follows

/-!
# A patch

A table with one marker, under any suffix: whether its trait can be written depends on the
suffix alone.
-/

def defaultRuntime : List Token :=
  [.punctuation ':' true ⟨⟨1, 0⟩, ⟨1, 1⟩⟩, .punctuation ':' false ⟨⟨1, 1⟩, ⟨1, 2⟩⟩,
    .identifier ⟨false, "docupdate"⟩ ⟨⟨1, 2⟩, ⟨1, 11⟩⟩]

theorem exists_runtimePath (suffix : String) :
    exists runtime, runtimePath { extensionSuffix := suffix } = .ok runtime := by
  have hlex : Token.lex? "::docupdate" = some defaultRuntime := rfl
  have hparse (rules : Rules) :
      exists path, Parser.runAll (Parser.path rules false) defaultRuntime = .ok path :=
    ⟨_, rfl⟩
  rcases hparse (Rules.forTokens defaultRuntime) with ⟨path, hpath⟩
  have hread : Syntax.path "::docupdate" = .ok path := by
    rw [Syntax.path, Syntax.parseText, hlex]
    exact hpath
  refine ⟨path.tokens, ?_⟩
  rw [runtimePath, hread]

def patchMarker : MarkerSpec where
  targetType := "User"

def patch : TypeInfo where
  name := "Patch"
  members := [.plain "age" .text]
  markers := [patchMarker]

def patches : TypeTable where
  types := [{ name := "User", members := [.plain "age" .text] }, patch]

def patchLocation : Location where
  sourceType := "Patch"
  targetType := some "User"
  method := some "to_update"

def patchMethod : UpdateMethod where
  sourceType := "Patch"
  targetType := "User"
  methodName := "to_update"
  bindings :=
    [{ order := 0
       source := .property "age" .text
       target := ⟨"age", .text⟩
       options := ⟨true, true, .set, true, false⟩
       expression := none
       location := { patchLocation with member := some "age" } }]
  inherent := false
  location := patchLocation

def patchResolved : ResolvedMethod where
  sourceType := "Patch"
  targetType := "User"
  methodName := "to_update"
  requiresExtensibleTarget := false
  targetFound := true
  prefixProblem := none
  bindings :=
    [{ order := 0
       source := .property "age" .text
       spec := {}
       options := ⟨true, true, .set, true, false⟩
       target := .ok ⟨"age", .text⟩
       location := { patchLocation with member := some "age" } }]
  location := patchLocation

def patchWritten : GeneratedMethod where
  declared := patchMethod
  name := .plain "to_update"
  target := .plain "User"
  source := none
  calls := [⟨[.filled (.plain "age")], .set, "age", .field (.plain "age")⟩]

theorem analyze_patches (suffix : String) :
    analyze patches { extensionSuffix := suffix } false = ⟨[patchMethod], [], []⟩ := by
  have hresolve : resolve patch patches { extensionSuffix := suffix } =
      ⟨[patchResolved], []⟩ := rfl
  exact Analysis.analyze_of_single rfl hresolve rfl rfl

theorem exists_generate_patches (suffix : String) {traits : List ExtensionTrait}
    {diagnostics : List Diagnostic}
    (h : Emission.gather
        [Emission.extensionTrait { extensionSuffix := suffix } [patchWritten] "Patch"] =
      .ok (traits, diagnostics)) :
    exists runtime, generate patches { extensionSuffix := suffix } false =
      .ok ⟨⟨runtime, traits, []⟩, withoutErrors (Diagnostic.sort diagnostics) [patchMethod],
        Diagnostic.sort diagnostics, []⟩ := by
  rcases exists_runtimePath suffix with ⟨runtime, hruntime⟩
  have hclean : withoutErrors [] [patchMethod] = [patchMethod] := rfl
  have hwritten : Emission.method patchMethod = .ok patchWritten := rfl
  refine ⟨runtime, ?_⟩
  rw [generate_eq_ofAnalysis hruntime, analyze_patches, ofAnalysis, emitted, hclean,
    Emission.ofMethods_singleton runtime hwritten rfl h]
  rfl

/-!
# No marker is lost
-/

/-- The function that a marker declares stands in the tokens: on the target, where the marker is
an extensible one, and otherwise in the trait that extends the source. -/
def Contains (generation : Generation) (config : GeneratorConfig) (source : TypeInfo)
    (marker : MarkerSpec) : Prop :=
  exists head function,
    (head, function) ∈
        CodeReader.functions generation.code.runtime.length generation.tokens
      ∧ function.body.isSome = true
      ∧ Implements config (config.defaults.requiresExtensible marker)
          (Analysis.markerKey config source marker) head function

/-- Every marker has its function, or an error is held against it or its source; and no function
has an error held against it. -/
theorem generate_all_or_nothing (hnodup : table.names.Nodup)
    (h : generate table config false = .ok generation) :
    (forall source, source ∈ table.types -> forall marker, marker ∈ source.markers ->
        generation.Contains config source marker
          ∨ exists diagnostic, diagnostic ∈ generation.diagnostics
              ∧ diagnostic.Blames source.name (config.markerMethod marker))
      ∧ forall head function,
          (head, function) ∈
              CodeReader.functions generation.code.runtime.length generation.tokens ->
            function.body.isSome = true ->
              exists key, key? (head, function) = some key
                ∧ forall diagnostic, diagnostic ∈ generation.diagnostics ->
                    diagnostic.isError = true -> ¬ diagnostic.location.PointsAt key := by
  rcases exists_follows h with ⟨emission, hfollows⟩
  constructor
  · intro source hsource marker hmarker
    rcases hfollows.marker_generated_or_blamed hsource hmarker with
      ⟨generated, hgenerated, hkey, hinherent⟩ | hblamed
    · rcases hfollows.emits.exists_shows hgenerated with ⟨head, function, hmem, hshows⟩
      rcases hshows.body with ⟨body, hbody, _hcalls⟩
      have himplements := hshows.implements
      rw [hkey, hinherent] at himplements
      rw [← hfollows.code] at hmem
      exact Or.inl ⟨head, function, hmem, by rw [hbody]; rfl, himplements⟩
    · exact Or.inr hblamed
  · intro head function hmem hbody
    rw [tokens, hfollows.code, hfollows.emits.runtime] at hmem
    rcases hfollows.emits.declared_or_shows hmem with
      ⟨_hnone, hnone⟩ | ⟨generated, hgenerated, hshows⟩
    · rw [hnone] at hbody
      cases hbody
    · refine ⟨generated.declared.key, key?_of_implements hshows.implements, ?_⟩
      intro diagnostic hdiagnostic herror hpoints
      have hwritten := (hfollows.emits.mem_code_methods.mp hgenerated).1
      exact hfollows.not_mem_blamed_of_written hnodup hwritten
        (mem_blamed.mpr ⟨diagnostic, hdiagnostic, herror, hpoints⟩)

theorem generate_all_or_nothing_patches :
    exists generation, generate patches {} false = .ok generation
      ∧ generation.diagnostics = [] ∧ generation.Contains {} patch patchMarker := by
  rcases exists_generate_patches "UpdateExt" rfl with ⟨runtime, h⟩
  have hsort : Diagnostic.sort [] = [] := List.mergeSort_nil
  refine ⟨_, h, hsort, ?_⟩
  have hall := generate_all_or_nothing (by decide) h
  rcases hall.1 patch (by simp [patches]) patchMarker (by simp [patch]) with
    hcontains | ⟨diagnostic, hdiagnostic, _hblames⟩
  · exact hcontains
  · rw [hsort] at hdiagnostic
    cases hdiagnostic

/-!
# What is listed and what is generated
-/

/-- The listed methods are those whose functions stand in the tokens. -/
def Agrees (generation : Generation) : Prop :=
  forall key, key ∈ generation.methods.map UpdateMethod.key ↔
    key ∈ keys generation.code.runtime.length generation.tokens

namespace Follows

variable {emission : Emission}

theorem mem_methods_of_mem_keys (h : Follows table config generation emission)
    (hnodup : table.names.Nodup) {key : MethodKey}
    (hmem : key ∈ keys generation.code.runtime.length generation.tokens) :
    key ∈ generation.methods.map UpdateMethod.key := by
  rcases h.mem_keys.mp hmem with ⟨generated, hgenerated, rfl⟩
  have hwritten := (h.emits.mem_code_methods.mp hgenerated).1
  exact List.mem_map_of_mem (h.mem_methods_of_written hnodup hwritten)

/-- A method that is written is generated, unless it needs a trait that cannot be written. -/
theorem mem_code_methods_iff (h : Follows table config generation emission)
    {generated : GeneratedMethod} (hmem : generated ∈ written (clean table config)) :
    generated ∈ emission.code.methods ↔
      (generated.declared.inherent = false ->
        Emission.CanExtend config generated.declared.sourceType) := by
  rw [h.emits.mem_code_methods]
  have htrait (hown : generated.declared.inherent = false) :
      (exists extension,
          traitOf config (clean table config) generated.declared.sourceType = .ok extension) ↔
        Emission.CanExtend config generated.declared.sourceType := by
    have hmember := Emission.mem_members.mpr ⟨hmem, hown⟩
    have hsource := Emission.mem_traitSources.mpr ⟨generated, hmember, rfl⟩
    exact Emission.extensionTrait_isOk_iff (h.emits.traitsWritable _ hsource)
  constructor
  · intro hgenerated hown
    exact (htrait hown).mp (hgenerated.2 hown)
  · intro hnames
    exact ⟨hmem, fun hown => (htrait hown).mpr (hnames hown)⟩

theorem eq_of_key_eq (hnodup : table.names.Nodup) {a b : GeneratedMethod}
    (ha : a ∈ written (clean table config)) (hb : b ∈ written (clean table config))
    (hkey : a.declared.key = b.declared.key) : a = b := by
  have ha := mem_written.mp ha
  have hb := mem_written.mp hb
  have hdeclared := List.inj_on_of_nodup_map (nodup_clean_keys config hnodup) ha.1 hb.1 hkey
  rw [hdeclared] at ha
  exact Except.ok.inj (ha.2.symm.trans hb.2)

theorem mem_keys_iff_of_mem_methods (h : Follows table config generation emission)
    (hnodup : table.names.Nodup) {method : UpdateMethod} (hmem : method ∈ generation.methods) :
    method.key ∈ keys generation.code.runtime.length generation.tokens ↔
      (method.inherent = false -> Emission.CanExtend config method.sourceType) := by
  rcases h.written_of_mem_methods hmem with ⟨generated, hwritten, rfl⟩
  rw [← h.mem_code_methods_iff hwritten, h.mem_keys]
  constructor
  · rintro ⟨other, hother, hkey⟩
    have hwritten' := (h.emits.mem_code_methods.mp hother).1
    rw [← eq_of_key_eq hnodup hwritten' hwritten hkey]
    exact hother
  · intro hgenerated
    exact ⟨generated, hgenerated, rfl⟩

end Follows

/-- What is generated is listed; and what is listed is generated exactly when each method that
belongs to a trait has a source, and a trait, whose names pass for identifiers. -/
theorem generate_listed (hnodup : table.names.Nodup)
    (h : generate table config false = .ok generation) :
    (forall key, key ∈ keys generation.code.runtime.length generation.tokens ->
        key ∈ generation.methods.map UpdateMethod.key)
      ∧ (generation.Agrees ↔
          forall method, method ∈ generation.methods -> method.inherent = false ->
            Emission.CanExtend config method.sourceType) := by
  rcases exists_follows h with ⟨emission, hfollows⟩
  refine ⟨fun key => hfollows.mem_methods_of_mem_keys hnodup, ?_⟩
  constructor
  · intro hagrees method hmem
    have hlisted := (hagrees method.key).mp (List.mem_map_of_mem hmem)
    exact (hfollows.mem_keys_iff_of_mem_methods hnodup hmem).mp hlisted
  · intro hnames key
    constructor
    · intro hlisted
      rcases List.mem_map.mp hlisted with ⟨method, hmem, rfl⟩
      exact (hfollows.mem_keys_iff_of_mem_methods hnodup hmem).mpr (hnames method hmem)
    · exact hfollows.mem_methods_of_mem_keys hnodup

theorem generate_listed_patches :
    exists generation, generate patches {} false = .ok generation
      ∧ generation.methods = [patchMethod] ∧ generation.Agrees := by
  rcases exists_generate_patches "UpdateExt" rfl with ⟨runtime, h⟩
  have hmethods : withoutErrors (Diagnostic.sort []) [patchMethod] = [patchMethod] := by
    rw [Diagnostic.sort, List.mergeSort_nil]
    rfl
  refine ⟨_, h, hmethods, (generate_listed (by decide) h).2.mpr ?_⟩
  intro method hmem _hown
  rw [hmethods, List.mem_singleton] at hmem
  rw [hmem]
  exact ⟨by decide, by decide⟩

/-- A suffix that makes no identifier leaves a method listed whose function is not generated: the
error points at the source, and not at the method. -/
theorem not_agrees_patches :
    exists generation, generate patches { extensionSuffix := "-" } false = .ok generation
      ∧ generation.diagnostics = [⟨.invalidIdentifier "Patch-", Location.source "Patch"⟩]
      ∧ generation.methods = [patchMethod] ∧ generation.tokens = []
      ∧ ¬ generation.Agrees := by
  have hgather :
      Emission.gather
          [Emission.extensionTrait { extensionSuffix := "-" } [patchWritten] "Patch"] =
        .ok ([], [⟨.invalidIdentifier "Patch-", Location.source "Patch"⟩]) := rfl
  rcases exists_generate_patches "-" hgather with ⟨runtime, h⟩
  have hsort : Diagnostic.sort [⟨.invalidIdentifier "Patch-", Location.source "Patch"⟩] =
      [⟨.invalidIdentifier "Patch-", Location.source "Patch"⟩] :=
    List.mergeSort_singleton _
  have hmethods :
      withoutErrors (Diagnostic.sort [⟨.invalidIdentifier "Patch-", Location.source "Patch"⟩])
        [patchMethod] = [patchMethod] := by
    rw [hsort]
    rfl
  refine ⟨_, h, hsort, hmethods, rfl, ?_⟩
  intro hagrees
  have hlisted := (hagrees patchMethod.key).mp (by rw [hmethods]; exact List.mem_singleton_self _)
  have hnone : CodeReader.functions runtime.length [] = [] := by
    rw [CodeReader.functions, CodeReader.scan]
    rfl
  change patchMethod.key ∈ keys runtime.length [] at hlisted
  rw [keys, hnone] at hlisted
  cases hlisted

end Generation
end PartialUpdate
