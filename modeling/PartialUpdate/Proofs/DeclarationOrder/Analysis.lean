import PartialUpdate.Proofs.Blame
import PartialUpdate.Proofs.DeclarationOrder.Resolution

/-!
# Analyses of types declared in another order

Aggregation counts declarations and does not look at their order, and the methods of an analysis
are told apart by their keys.  The reports of one source keep their order when its markers do,
and reports of different sources have different keys.
-/

namespace PartialUpdate

namespace Aggregation

/-!
# Aggregation
-/

theorem pairLe_isLinear : Ordered.IsLinear pairLe :=
  Ordered.lexLe_isLinear Ordered.textLe_isLinear Ordered.textLe_isLinear

theorem sortedPairs_eq_of_perm {pairs others : List (String × String)}
    (hperm : pairs.Perm others) : sortedPairs pairs = sortedPairs others := by
  have honce : pairs.eraseDups.Perm others.eraseDups := by
    apply (List.perm_ext_iff_of_nodup (nodup_eraseDups _) (nodup_eraseDups _)).mpr
    intro pair
    rw [List.mem_eraseDups, List.mem_eraseDups]
    exact hperm.mem_iff
  have hnodup : (pairs.eraseDups.map id).Nodup := by
    rw [List.map_id]
    exact nodup_eraseDups pairs
  exact Ordered.sort_eq_of_perm pairLe_isLinear id honce hnodup

theorem isAmbiguousPair_eq_of_perm {declared others : List DeclaredMethod}
    (hperm : declared.Perm others) (pair : String × String) :
    isAmbiguousPair declared pair = isAmbiguousPair others pair := by
  unfold isAmbiguousPair declaring
  rw [(hperm.filter _).length_eq]

theorem traitClash?_isSome_iff {declared : List DeclaredMethod} {name : String} :
    (traitClash? declared name).isSome = true ↔
      exists a, a ∈ inTrait declared name
        ∧ exists b, b ∈ inTrait declared name ∧ a.targetType ≠ b.targetType := by
  constructor
  · intro hsome
    rcases Option.isSome_iff_exists.mp hsome with ⟨clash, hclash⟩
    have hmem := mem_inTrait_of_traitClash? hclash
    unfold traitClash? at hclash
    cases hdeclared : inTrait declared name with
    | nil =>
        rw [hdeclared] at hmem
        cases hmem
    | cons first rest =>
        rw [hdeclared, firstPerTarget, List.getElem?_cons_succ] at hclash
        have hother := List.mem_of_getElem? hclash
        refine ⟨clash, ?_, first, List.mem_cons_self, ?_⟩
        · rw [← hdeclared]
          exact hmem
        · simpa using (List.mem_filter.mp hother).2
  · rintro ⟨a, ha, b, hb, hne⟩
    exact traitClash?_isSome ha hb hne

theorem traitClash?_eq_none_of_perm {declared others : List DeclaredMethod}
    (hperm : declared.Perm others) (name : String) :
    traitClash? declared name = none ↔ traitClash? others name = none := by
  have hmem (method : DeclaredMethod) :
      method ∈ inTrait declared name ↔ method ∈ inTrait others name :=
    (hperm.filter _).mem_iff
  rw [← Option.not_isSome_iff_eq_none, ← Option.not_isSome_iff_eq_none,
    traitClash?_isSome_iff, traitClash?_isSome_iff]
  simp only [hmem]

theorem candidate?_eq_of_perm {declared declared' : List DeclaredMethod}
    {methods methods' : List UpdateMethod} (hdeclared : declared.Perm declared')
    (hmethods : methods.Perm methods') (pair : String × String) :
    candidate? declared methods pair = candidate? declared' methods' pair := by
  have hsingle (method : UpdateMethod) :
      methods.filter (fun other => other.pair == pair) = [method] ↔
        methods'.filter (fun other => other.pair == pair) = [method] := by
    have hfiltered := hmethods.filter (fun other => other.pair == pair)
    constructor
    · intro h
      rw [h] at hfiltered
      exact List.perm_singleton.mp hfiltered.symm
    · intro h
      rw [h] at hfiltered
      exact List.perm_singleton.mp hfiltered
  apply Option.ext
  intro candidate
  rw [candidate?_eq_some, candidate?_eq_some]
  simp only [hsingle, isAmbiguousPair_eq_of_perm hdeclared,
    traitClash?_eq_none_of_perm hdeclared]

theorem candidates_eq_of_perm {declared declared' : List DeclaredMethod}
    {methods methods' : List UpdateMethod} (hdeclared : declared.Perm declared')
    (hmethods : methods.Perm methods') :
    candidates declared methods = candidates declared' methods' := by
  have hcandidate : candidate? declared methods = candidate? declared' methods' :=
    funext (candidate?_eq_of_perm hdeclared hmethods)
  unfold candidates
  rw [sortedPairs_eq_of_perm (hmethods.map UpdateMethod.pair), hcandidate]

theorem aggregate_methods_eq_of_perm {declared declared' : List DeclaredMethod}
    {methods methods' : List UpdateMethod} (hdeclared : declared.Perm declared')
    (hmethods : methods.Perm methods') (config : GeneratorConfig) :
    (aggregate methods declared config).methods =
      (aggregate methods' declared' config).methods := by
  unfold aggregate
  rw [candidates_eq_of_perm hdeclared hmethods]

end Aggregation

/-!
# One source
-/

namespace UnitAnalysis

variable {table other : TypeTable} {source source' : TypeInfo}

theorem ofSource_methods_eq (hlook : table.LooksUpAlike other) (hsource : source.Alike source')
    (config : GeneratorConfig) :
    (ofSource table config source).methods = (ofSource other config source').methods := by
  have hresolved := Resolution.resolve_methods_perm hlook hsource config
  have hvalid := Validation.validate_methods_perm hlook hsource hresolved
  exact Aggregation.aggregate_methods_eq_of_perm (hresolved.map DeclaredMethod.ofResolved)
    hvalid config

theorem ofSource_eq (hlook : table.LooksUpAlike other) (config : GeneratorConfig) :
    ofSource table config = ofSource other config := by
  funext source
  rw [ofSource, ofSource, Resolution.resolve_eq hlook, Validation.validate_eq hlook]

end UnitAnalysis

/-!
# Types in another order
-/

namespace Analysis

variable {table other : TypeTable} {config : GeneratorConfig}

def unitDiagnostics (table : TypeTable) (config : GeneratorConfig) : List Diagnostic :=
  table.sources.flatMap (fun source => (UnitAnalysis.ofSource table config source).diagnostics)

theorem under_unitDiagnostics (table : TypeTable) (config : GeneratorConfig)
    (key : Option String × Option String × String) :
    Ordered.under Diagnostic.sortKey key (unitDiagnostics table config) =
      (Ordered.under TypeInfo.name key.2.2 table.sources).flatMap (fun source =>
        Ordered.under Diagnostic.sortKey key
          (UnitAnalysis.ofSource table config source).diagnostics) := by
  apply Ordered.under_flatMap
  intro source diagnostic hmem hkey
  rw [← UnitAnalysis.sourceType_of_mem_diagnostics hmem, ← hkey]
  rfl

section Types

variable (hnodup : table.names.Nodup) (hperm : table.types.Perm other.types)
include hnodup hperm

theorem unitMethods_perm (config : GeneratorConfig) :
    (unitMethods table config).Perm (unitMethods other config) := by
  unfold unitMethods
  rw [UnitAnalysis.ofSource_eq (TypeTable.looksUpAlike_of_perm hnodup hperm)]
  exact (hperm.filter _).flatMap_right _

theorem sortMethods_eq_of_perm (config : GeneratorConfig) :
    sortMethods (unitMethods table config) = sortMethods (unitMethods other config) :=
  Ordered.sort_eq_of_perm Ordered.methodKeyLe_isLinear UpdateMethod.key
    (unitMethods_perm hnodup hperm config) (nodup_unitMethods_keys config hnodup)

theorem under_unitDiagnostics_eq (config : GeneratorConfig)
    (key : Option String × Option String × String) :
    Ordered.under Diagnostic.sortKey key (unitDiagnostics table config) =
      Ordered.under Diagnostic.sortKey key (unitDiagnostics other config) := by
  have hsources : Ordered.under TypeInfo.name key.2.2 table.sources =
      Ordered.under TypeInfo.name key.2.2 other.sources :=
    Ordered.under_eq_of_perm (hperm.filter _)
      (List.pairwise_map.mpr (TypeTable.sources_pairwise hnodup)) _
  rw [under_unitDiagnostics, under_unitDiagnostics, hsources,
    UnitAnalysis.ofSource_eq (TypeTable.looksUpAlike_of_perm hnodup hperm)]

/-- The order of the types shows nowhere in an analysis. -/
theorem analyze_eq_of_perm (config : GeneratorConfig) :
    analyze table config false = analyze other config false := by
  have hmethods : (analyze table config false).methods = (analyze other config false).methods := by
    rw [analyze_methods, analyze_methods, sortMethods_eq_of_perm hnodup hperm]
  have hdiagnostics :
      (analyze table config false).diagnostics = (analyze other config false).diagnostics := by
    rw [analyze_diagnostics, analyze_diagnostics, sortMethods_eq_of_perm hnodup hperm]
    apply Ordered.sort_eq_of_under_eq Ordered.keyLe_isLinear Diagnostic.sortKey
    intro key
    have hunits := under_unitDiagnostics_eq hnodup hperm config key
    unfold Ordered.under at hunits ⊢
    rw [List.filter_append, List.filter_append]
    exact congrArg (fun units => units ++ _) hunits
  exact congrArg₂ (fun methods diagnostics => Analysis.mk methods diagnostics [])
    hmethods hdiagnostics

end Types

/-!
# Markers in another order
-/

theorem filter_isSource_alike {types others : List TypeInfo}
    (halike : List.Forall₂ TypeInfo.Alike types others) :
    List.Forall₂ TypeInfo.Alike (types.filter TypeInfo.isSource)
      (others.filter TypeInfo.isSource) := by
  induction halike with
  | nil => exact List.Forall₂.nil
  | cons hinfo _hrest ih =>
      rw [List.filter_cons, List.filter_cons, hinfo.isSource_eq]
      split
      · exact List.Forall₂.cons hinfo ih
      · exact ih

theorem flatMap_methods_eq_of_alike (hlook : table.LooksUpAlike other) (config : GeneratorConfig)
    {sources sources' : List TypeInfo} (halike : List.Forall₂ TypeInfo.Alike sources sources') :
    sources.flatMap (fun source => (UnitAnalysis.ofSource table config source).methods) =
      sources'.flatMap (fun source => (UnitAnalysis.ofSource other config source).methods) := by
  induction halike with
  | nil => rfl
  | cons hsource _hrest ih =>
      rw [List.flatMap_cons, List.flatMap_cons, ih,
        UnitAnalysis.ofSource_methods_eq hlook hsource]

theorem unitMethods_eq_of_alike
    (halike : List.Forall₂ TypeInfo.Alike table.types other.types) (config : GeneratorConfig) :
    unitMethods table config = unitMethods other config :=
  flatMap_methods_eq_of_alike (TypeTable.looksUpAlike_of_forall₂ halike) config
    (filter_isSource_alike halike)

/-- The order of the markers on a type does not show in the methods of an analysis. -/
theorem analyze_methods_eq_of_alike
    (halike : List.Forall₂ TypeInfo.Alike table.types other.types) (config : GeneratorConfig) :
    (analyze table config false).methods = (analyze other config false).methods := by
  rw [analyze_methods, analyze_methods, unitMethods_eq_of_alike halike]

end Analysis
end PartialUpdate
