import PartialUpdate.Proofs.InsertionOrder
import PartialUpdate.Proofs.Order
import PartialUpdate.Proofs.Validation

/-!
# Aggregation of the methods of one source

A pair of target and method keeps at most one method, and a name belongs to at most one method
of the extension trait.  A method that is not kept leaves an error behind.
-/

namespace PartialUpdate
namespace Aggregation

/-!
# Sorted keys
-/

theorem mem_sortedPairs {pairs : List (String × String)} {pair : String × String} :
    pair ∈ sortedPairs pairs ↔ pair ∈ pairs := by
  rw [sortedPairs, List.mem_mergeSort, List.mem_eraseDups]

theorem nodup_sortedPairs (pairs : List (String × String)) : (sortedPairs pairs).Nodup :=
  (List.mergeSort_perm _ _).nodup_iff.mpr (nodup_eraseDups pairs)

theorem mem_sortedNames {names : List String} {name : String} :
    name ∈ sortedNames names ↔ name ∈ names := by
  rw [sortedNames, List.mem_mergeSort, List.mem_eraseDups]

/-!
# Clashing names
-/

theorem exists_mem_firstPerTarget {declared : List DeclaredMethod} {method : DeclaredMethod}
    (hmem : method ∈ declared) :
    exists first, first ∈ firstPerTarget declared ∧ first.targetType = method.targetType := by
  induction declared with
  | nil => cases hmem
  | cons head rest ih =>
      by_cases htarget : head.targetType = method.targetType
      · exact ⟨head, List.mem_cons_self, htarget⟩
      · have hrest : method ∈ rest := by
          rcases List.mem_cons.mp hmem with heq | hrest
          · exact absurd (congrArg DeclaredMethod.targetType heq.symm) htarget
          · exact hrest
        rcases ih hrest with ⟨first, hfirst, hsame⟩
        refine ⟨first, List.mem_cons_of_mem _ (List.mem_filter.mpr ⟨hfirst, ?_⟩), hsame⟩
        have hne : first.targetType ≠ head.targetType := by
          rw [hsame]
          exact fun h => htarget h.symm
        simpa using hne

theorem getElem?_one_of_mem_ne {α : Type} {items : List α} {a b : α} (ha : a ∈ items)
    (hb : b ∈ items) (hne : a ≠ b) : exists second, items[1]? = some second := by
  cases items with
  | nil => cases ha
  | cons first rest =>
      cases rest with
      | nil =>
          rw [List.mem_singleton] at ha hb
          exact absurd (ha.trans hb.symm) hne
      | cons second more => exact ⟨second, rfl⟩

theorem traitClash?_isSome {declared : List DeclaredMethod} {a b : DeclaredMethod}
    {name : String} (ha : a ∈ inTrait declared name) (hb : b ∈ inTrait declared name)
    (hne : a.targetType ≠ b.targetType) : (traitClash? declared name).isSome = true := by
  rcases exists_mem_firstPerTarget ha with ⟨firstA, hfirstA, hsameA⟩
  rcases exists_mem_firstPerTarget hb with ⟨firstB, hfirstB, hsameB⟩
  have hdifferent : firstA ≠ firstB := by
    intro heq
    apply hne
    rw [← hsameA, ← hsameB, heq]
  rcases getElem?_one_of_mem_ne hfirstA hfirstB hdifferent with ⟨second, hsecond⟩
  rw [traitClash?, hsecond]
  rfl

theorem mem_of_mem_firstPerTarget {declared : List DeclaredMethod} {method : DeclaredMethod}
    (hmem : method ∈ firstPerTarget declared) : method ∈ declared := by
  induction declared with
  | nil => cases hmem
  | cons head rest ih =>
      rcases List.mem_cons.mp hmem with rfl | hrest
      · exact List.mem_cons_self
      · exact List.mem_cons_of_mem _ (ih (List.mem_filter.mp hrest).1)

theorem mem_inTrait_of_traitClash? {declared : List DeclaredMethod} {clash : DeclaredMethod}
    {name : String} (h : traitClash? declared name = some clash) :
    clash ∈ inTrait declared name :=
  mem_of_mem_firstPerTarget (List.mem_of_getElem? h)

theorem mem_inTrait {declared : List DeclaredMethod} {method : DeclaredMethod} {name : String} :
    method ∈ inTrait declared name ↔
      method ∈ declared ∧ method.inherent = false ∧ method.methodName = name := by
  simp [inTrait, List.mem_filter]

/-!
# Candidates
-/

/-- A candidate is the only method of its pair, and neither the pair nor the name clashes. -/
theorem candidate?_eq_some {declared : List DeclaredMethod} {methods : List UpdateMethod}
    {pair : String × String} {candidate : UpdateMethod} :
    candidate? declared methods pair = some candidate ↔
      exists method, methods.filter (fun other => other.pair == pair) = [method]
        ∧ isAmbiguousPair declared pair = false
        ∧ (method.inherent = true ∨ traitClash? declared pair.2 = none)
        ∧ sortedBindings method = candidate := by
  unfold candidate?
  constructor
  · intro h
    split at h
    · rename_i method hfilter
      split at h
      · cases h
      · rename_i hpair
        split at h
        · cases h
        · rename_i hclash
          refine ⟨method, hfilter, by simpa using hpair, ?_, Option.some.inj h⟩
          cases hinherent : method.inherent with
          | true => exact Or.inl rfl
          | false => exact Or.inr (by simpa [hinherent] using hclash)
    · cases h
  · rintro ⟨method, hfilter, hpair, hclash, rfl⟩
    rw [hfilter]
    rcases hclash with hinherent | hclash
    · simp [hpair, hinherent]
    · simp [hpair, hclash]

theorem pair_of_filter_eq {methods : List UpdateMethod} {pair : String × String}
    {method : UpdateMethod} (h : methods.filter (fun other => other.pair == pair) = [method]) :
    method ∈ methods ∧ method.pair = pair := by
  have hmem : method ∈ methods.filter (fun other => other.pair == pair) := by
    rw [h]
    exact List.mem_singleton.mpr rfl
  rcases List.mem_filter.mp hmem with ⟨hmethod, hpair⟩
  exact ⟨hmethod, by simpa using hpair⟩

@[simp] theorem sortedBindings_pair (method : UpdateMethod) :
    (sortedBindings method).pair = method.pair := rfl

theorem sortedBindings_of_isPlaced {method : UpdateMethod} (h : method.IsPlaced) :
    sortedBindings method = method := by
  have hsorted : method.bindings.Pairwise
      (fun a b => decide (a.order <= b.order) = true) := by
    apply h.ascending.imp
    intro a b hab
    exact decide_eq_true (Nat.le_of_lt hab)
  rw [sortedBindings, List.mergeSort_of_pairwise hsorted]

theorem candidates_pairwise (declared : List DeclaredMethod) (methods : List UpdateMethod) :
    (candidates declared methods).Pairwise (fun a b => a.pair ≠ b.pair) := by
  apply List.Pairwise.filterMap _ _ (nodup_sortedPairs (methods.map UpdateMethod.pair))
  intro pair pair' hne a ha b hb
  rcases candidate?_eq_some.mp ha with ⟨methodA, hfilterA, _, _, rfl⟩
  rcases candidate?_eq_some.mp hb with ⟨methodB, hfilterB, _, _, rfl⟩
  rw [sortedBindings_pair, sortedBindings_pair, (pair_of_filter_eq hfilterA).2,
    (pair_of_filter_eq hfilterB).2]
  exact hne

theorem mem_candidates {declared : List DeclaredMethod} {methods : List UpdateMethod}
    {candidate : UpdateMethod} :
    candidate ∈ candidates declared methods ↔
      exists method, methods.filter (fun other => other.pair == method.pair) = [method]
        ∧ isAmbiguousPair declared method.pair = false
        ∧ (method.inherent = true ∨ traitClash? declared method.methodName = none)
        ∧ sortedBindings method = candidate := by
  rw [candidates, List.mem_filterMap]
  constructor
  · rintro ⟨pair, _hpair, hcandidate⟩
    rcases candidate?_eq_some.mp hcandidate with ⟨method, hfilter, hrest⟩
    have hpair := (pair_of_filter_eq hfilter).2
    subst hpair
    exact ⟨method, hfilter, hrest⟩
  · rintro ⟨method, hfilter, hrest⟩
    have hmem := (pair_of_filter_eq hfilter).1
    exact ⟨method.pair, mem_sortedPairs.mpr (List.mem_map_of_mem hmem),
      candidate?_eq_some.mpr ⟨method, hfilter, hrest⟩⟩

end Aggregation

/-!
# Methods and the markers that declare them
-/

/-- Methods that passed the validation, beside all markers of their source. -/
structure Declares (source : String) (declared : List DeclaredMethod)
    (methods : List UpdateMethod) : Prop where
  placed : forall method, method ∈ methods -> method.IsPlaced ∧ method.sourceType = source
  marked : forall method, method ∈ methods -> exists marker, marker ∈ declared
    ∧ marker.pair = method.pair ∧ marker.inherent = method.inherent
  located : forall marker, marker ∈ declared ->
    marker.location.PointsAt (marker.targetType, marker.methodName, source)
  counted : forall pair, (methods.filter (fun method => method.pair == pair)).length ≤
    (Aggregation.declaring declared pair).length

theorem validate_declares (source : TypeInfo) (table : TypeTable) (config : GeneratorConfig) :
    Declares source.name (resolve source table config).declared
      (validate source (resolve source table config) table).methods where
  placed := by
    intro method hmem
    exact Validation.isPlaced_of_mem_validate hmem
  marked := by
    intro method hmem
    rcases Validation.mem_validate_methods.mp hmem with ⟨resolved, hresolved, _haccepted, rfl⟩
    exact ⟨DeclaredMethod.ofResolved resolved, List.mem_map_of_mem hresolved, rfl, rfl⟩
  located := by
    intro marker hmem
    rcases List.mem_map.mp hmem with ⟨resolved, hresolved, rfl⟩
    rcases List.mem_map.mp hresolved with ⟨spec, _hspec, rfl⟩
    exact ⟨rfl, rfl, rfl⟩
  counted := Validation.length_filter_pair_le _

namespace Aggregation

variable {source : String} {declared : List DeclaredMethod} {methods : List UpdateMethod}
variable {config : GeneratorConfig}

theorem mem_aggregate {method : UpdateMethod} :
    method ∈ (aggregate methods declared config).methods ↔
      method ∈ candidates declared methods ∧ repeatedPaths method = [] := by
  simp [aggregate, List.mem_filter]

theorem mem_of_mem_aggregate (h : Declares source declared methods) {method : UpdateMethod}
    (hmem : method ∈ (aggregate methods declared config).methods) : method ∈ methods := by
  rcases mem_candidates.mp (mem_aggregate.mp hmem).1 with ⟨original, hfilter, _, _, rfl⟩
  have horiginal := (pair_of_filter_eq hfilter).1
  rw [sortedBindings_of_isPlaced (h.placed original horiginal).1]
  exact horiginal

/-!
A single declaration competes with no other.
-/

theorem declaring_singleton (declared : DeclaredMethod) (pair : String × String) :
    isAmbiguousPair [declared] pair = false ∧ pairDiagnostic? [declared] pair = none := by
  unfold isAmbiguousPair pairDiagnostic? declaring
  cases h : declared.pair == pair <;> simp [h]

theorem traitClash?_singleton (declared : DeclaredMethod) (name : String) :
    traitClash? [declared] name = none := by
  unfold traitClash? inTrait
  cases h : (!declared.inherent && declared.methodName == name) <;>
    simp [h, firstPerTarget]

theorem diagnostics_singleton (declared : DeclaredMethod) (config : GeneratorConfig) :
    pairDiagnostics [declared] = [] ∧ traitDiagnostics [declared] config = [] := by
  constructor
  · exact List.filterMap_eq_nil_iff.mpr (fun pair _ => (declaring_singleton declared pair).2)
  · apply List.filterMap_eq_nil_iff.mpr
    intro name _hname
    rw [traitDiagnostic?, traitClash?_singleton]
    rfl

theorem aggregate_singleton (declared : DeclaredMethod) {method : UpdateMethod}
    (hplaced : method.IsPlaced) (hpaths : repeatedPaths method = []) :
    aggregate [method] [declared] config = ⟨[method], []⟩ := by
  have hcandidates : candidates [declared] [method] = [method] := by
    have hsorted : sortedPairs ([method].map UpdateMethod.pair) = [method.pair] :=
      List.mergeSort_singleton _
    have hcandidate : candidate? [declared] [method] method.pair = some method := by
      simp [candidate?, (declaring_singleton declared method.pair).1, traitClash?_singleton,
        sortedBindings_of_isPlaced hplaced]
    rw [candidates, hsorted, List.filterMap_cons_some hcandidate, List.filterMap_nil]
  rcases diagnostics_singleton declared config with ⟨hpairs, htraits⟩
  simp [aggregate, hcandidates, hpairs, htraits, pathDiagnostics, hpaths]

theorem aggregate_dropped (declared : DeclaredMethod) (config : GeneratorConfig) :
    aggregate [] [declared] config = ⟨[], []⟩ := by
  have hcandidates : candidates [declared] [] = [] := by
    have hsorted : sortedPairs [] = [] := List.mergeSort_nil
    rw [candidates, List.map_nil, hsorted, List.filterMap_nil]
  rcases diagnostics_singleton declared config with ⟨hpairs, htraits⟩
  simp [aggregate, hcandidates, hpairs, htraits]

theorem aggregate_pairwise (declared : List DeclaredMethod) (methods : List UpdateMethod)
    (config : GeneratorConfig) :
    (aggregate methods declared config).methods.Pairwise (fun a b => a.pair ≠ b.pair) :=
  (candidates_pairwise declared methods).filter _

theorem mem_inTrait_of_mem_aggregate (h : Declares source declared methods)
    {method : UpdateMethod} (hmem : method ∈ (aggregate methods declared config).methods)
    (hinherent : method.inherent = false) :
    traitClash? declared method.methodName = none ∧ exists marker,
      marker ∈ inTrait declared method.methodName ∧ marker.targetType = method.targetType := by
  rcases mem_candidates.mp (mem_aggregate.mp hmem).1 with ⟨original, hfilter, _, hclash, rfl⟩
  rcases h.marked original (pair_of_filter_eq hfilter).1 with
    ⟨marker, hmarker, hpair, hmode⟩
  have hinherent' : original.inherent = false := hinherent
  constructor
  · rcases hclash with htrue | hnone
    · rw [hinherent'] at htrue
      cases htrue
    · exact hnone
  · refine ⟨marker, mem_inTrait.mpr ⟨hmarker, hmode.trans hinherent', ?_⟩, ?_⟩
    · exact congrArg Prod.snd hpair
    · exact congrArg Prod.fst hpair

theorem aggregate_trait_pairwise (config : GeneratorConfig)
    (h : Declares source declared methods) :
    ((aggregate methods declared config).methods.filter (fun method => !method.inherent)).Pairwise
      (fun a b => a.methodName ≠ b.methodName) := by
  have hpairs := (aggregate_pairwise declared methods config).filter
    (fun method => !method.inherent)
  apply hpairs.imp_of_mem
  intro a b ha hb hpair hname
  rcases List.mem_filter.mp ha with ⟨ha, hmodeA⟩
  rcases List.mem_filter.mp hb with ⟨hb, hmodeB⟩
  rcases mem_inTrait_of_mem_aggregate h ha (by simpa using hmodeA) with
    ⟨hclash, markerA, hmarkerA, htargetA⟩
  rcases mem_inTrait_of_mem_aggregate h hb (by simpa using hmodeB) with
    ⟨_, markerB, hmarkerB, htargetB⟩
  rw [← hname] at hmarkerB
  have hne : markerA.targetType ≠ markerB.targetType := by
    intro htarget
    apply hpair
    rw [htargetA, htargetB] at htarget
    exact Prod.ext htarget hname
  have hsome := traitClash?_isSome hmarkerA hmarkerB hne
  rw [hclash] at hsome
  cases hsome

/-!
# No silent drop
-/

theorem exists_pairDiagnostic (h : Declares source declared methods) {pair : String × String}
    (hambiguous : isAmbiguousPair declared pair = true) :
    exists diagnostic, diagnostic ∈ pairDiagnostics declared
      ∧ diagnostic.Blames source pair.2 := by
  have hlength : 1 < (declaring declared pair).length := by
    simpa [isAmbiguousPair] using hambiguous
  match hdeclaring : declaring declared pair with
  | [] | [_] =>
      rw [hdeclaring] at hlength
      simp at hlength
  | first :: second :: rest =>
      have hfirst : first ∈ declaring declared pair := by
        rw [hdeclaring]
        exact List.mem_cons_self
      rcases List.mem_filter.mp hfirst with ⟨hmem, hpair⟩
      have hpair : first.pair = pair := by simpa using hpair
      refine ⟨⟨.duplicateMethod pair.2 pair.1, first.location⟩, ?_, ?_⟩
      · apply List.mem_filterMap.mpr
        refine ⟨pair, mem_sortedPairs.mpr (List.mem_map.mpr ⟨first, hmem, hpair⟩), ?_⟩
        rw [pairDiagnostic?, hdeclaring]
      · rw [← hpair]
        exact Diagnostic.blames_of_pointsAt rfl (h.located first hmem)

theorem exists_traitDiagnostic (config : GeneratorConfig)
    (h : Declares source declared methods) {name : String}
    (hclash : (traitClash? declared name).isSome = true) :
    exists diagnostic, diagnostic ∈ traitDiagnostics declared config
      ∧ diagnostic.Blames source name := by
  rcases Option.isSome_iff_exists.mp hclash with ⟨clash, hclash⟩
  rcases mem_inTrait.mp (mem_inTrait_of_traitClash? hclash) with ⟨hmem, hmode, rfl⟩
  refine ⟨⟨.methodNameAlreadyExists clash.methodName
    (clash.location.sourceType ++ config.extensionSuffix), clash.location⟩, ?_, ?_⟩
  · apply List.mem_filterMap.mpr
    refine ⟨clash.methodName, mem_sortedNames.mpr (List.mem_map_of_mem ?_), ?_⟩
    · exact List.mem_filter.mpr ⟨hmem, by simp [hmode]⟩
    · rw [traitDiagnostic?, hclash]
      rfl
  · exact Diagnostic.blames_of_pointsAt rfl (h.located clash hmem)

theorem exists_pathDiagnostic {method : UpdateMethod} (hplaced : method.IsPlaced)
    (hrepeated : repeatedPaths method ≠ []) :
    exists diagnostic, diagnostic ∈ pathDiagnostics method
      ∧ diagnostic.Blames method.sourceType method.methodName := by
  rcases List.exists_mem_of_ne_nil _ hrepeated with ⟨path, hpath⟩
  exact ⟨⟨.duplicateTargetPath path method.methodName, method.location⟩,
    List.mem_map_of_mem hpath, Diagnostic.blames_of_pointsAt rfl hplaced.location⟩

theorem filter_pair_eq_singleton (h : Declares source declared methods) {method : UpdateMethod}
    (hmem : method ∈ methods) (hpair : isAmbiguousPair declared method.pair = false) :
    methods.filter (fun other => other.pair == method.pair) = [method] := by
  have hcount := h.counted method.pair
  have hone : (declaring declared method.pair).length ≤ 1 := by
    simpa [isAmbiguousPair] using hpair
  have hfilter : method ∈ methods.filter (fun other => other.pair == method.pair) :=
    List.mem_filter.mpr ⟨hmem, beq_self_eq_true _⟩
  match hfound : methods.filter (fun other => other.pair == method.pair) with
  | [] =>
      rw [hfound] at hfilter
      cases hfilter
  | [only] =>
      rw [hfound, List.mem_singleton] at hfilter
      rw [hfound, hfilter]
  | _ :: _ :: _ =>
      rw [hfound] at hcount
      simp only [List.length_cons] at hcount
      omega

/-- Whatever passed the validation is kept or blamed. -/
theorem mem_aggregate_or_blamed (config : GeneratorConfig)
    (h : Declares source declared methods) {method : UpdateMethod}
    (hmem : method ∈ methods) :
    method ∈ (aggregate methods declared config).methods
      ∨ exists diagnostic, diagnostic ∈ (aggregate methods declared config).diagnostics
        ∧ diagnostic.Blames source method.methodName := by
  have hplaced := h.placed method hmem
  cases hpair : isAmbiguousPair declared method.pair with
  | true =>
      rcases exists_pairDiagnostic h hpair with ⟨diagnostic, hdiagnostic, hblames⟩
      refine Or.inr ⟨diagnostic, ?_, hblames⟩
      exact List.mem_append_left _ (List.mem_append_left _ hdiagnostic)
  | false =>
      by_cases hclash : method.inherent = true ∨ traitClash? declared method.methodName = none
      · have hcandidate : method ∈ candidates declared methods :=
          mem_candidates.mpr ⟨method, filter_pair_eq_singleton h hmem hpair, hpair, hclash,
            sortedBindings_of_isPlaced hplaced.1⟩
        by_cases hrepeated : repeatedPaths method = []
        · exact Or.inl (mem_aggregate.mpr ⟨hcandidate, hrepeated⟩)
        · rcases exists_pathDiagnostic hplaced.1 hrepeated with ⟨diagnostic, hdiagnostic, hblames⟩
          rw [hplaced.2] at hblames
          refine Or.inr ⟨diagnostic, ?_, hblames⟩
          exact List.mem_append_right _ (List.mem_flatMap.mpr ⟨method, hcandidate, hdiagnostic⟩)
      · have hsome : (traitClash? declared method.methodName).isSome = true := by
          rw [Option.isSome_iff_ne_none]
          exact fun hnone => hclash (Or.inr hnone)
        rcases exists_traitDiagnostic config h hsome with
          ⟨diagnostic, hdiagnostic, hblames⟩
        refine Or.inr ⟨diagnostic, ?_, hblames⟩
        exact List.mem_append_left _ (List.mem_append_right _ hdiagnostic)

/-!
# What is reported
-/

theorem exists_of_mem_pairDiagnostics {diagnostic : Diagnostic}
    (hmem : diagnostic ∈ pairDiagnostics declared) :
    exists marker, marker ∈ declared ∧ isAmbiguousPair declared marker.pair = true
      ∧ diagnostic.location = marker.location := by
  rcases List.mem_filterMap.mp hmem with ⟨pair, _hpair, hsome⟩
  unfold pairDiagnostic? at hsome
  split at hsome
  · rename_i first second rest hdeclaring
    cases hsome
    have hfirst : first ∈ declaring declared pair := by
      rw [hdeclaring]
      exact List.mem_cons_self
    rcases List.mem_filter.mp hfirst with ⟨hmarker, hpair⟩
    have hpair : first.pair = pair := by simpa using hpair
    refine ⟨first, hmarker, ?_, rfl⟩
    rw [hpair, isAmbiguousPair, hdeclaring]
    simp
  · cases hsome

theorem exists_of_mem_traitDiagnostics {diagnostic : Diagnostic}
    (hmem : diagnostic ∈ traitDiagnostics declared config) :
    exists marker, marker ∈ declared ∧ marker.inherent = false
      ∧ traitClash? declared marker.methodName ≠ none
      ∧ diagnostic.location = marker.location := by
  rcases List.mem_filterMap.mp hmem with ⟨name, _hname, hsome⟩
  unfold traitDiagnostic? at hsome
  cases hclash : traitClash? declared name with
  | none =>
      rw [hclash] at hsome
      cases hsome
  | some clash =>
      rw [hclash] at hsome
      cases hsome
      rcases mem_inTrait.mp (mem_inTrait_of_traitClash? hclash) with ⟨hmarker, hmode, hname⟩
      refine ⟨clash, hmarker, hmode, ?_, rfl⟩
      rw [hname, hclash]
      exact Option.some_ne_none clash

theorem exists_of_mem_pathDiagnostics {diagnostic : Diagnostic} {candidates : List UpdateMethod}
    (hmem : diagnostic ∈ candidates.flatMap pathDiagnostics) :
    exists method, method ∈ candidates ∧ repeatedPaths method ≠ []
      ∧ diagnostic.location = method.location := by
  rcases List.mem_flatMap.mp hmem with ⟨method, hmethod, hreported⟩
  rcases List.mem_map.mp hreported with ⟨path, hpath, rfl⟩
  exact ⟨method, hmethod, List.ne_nil_of_mem hpath, rfl⟩

theorem isPlaced_of_mem_candidates (h : Declares source declared methods) {method : UpdateMethod}
    (hmem : method ∈ candidates declared methods) :
    method.IsPlaced ∧ method.sourceType = source := by
  rcases mem_candidates.mp hmem with ⟨original, hfilter, _, _, rfl⟩
  have hplaced := h.placed original (pair_of_filter_eq hfilter).1
  rw [sortedBindings_of_isPlaced hplaced.1]
  exact hplaced

theorem exists_pointsAt_of_mem_diagnostics (h : Declares source declared methods)
    {diagnostic : Diagnostic}
    (hmem : diagnostic ∈ (aggregate methods declared config).diagnostics) :
    exists target name, diagnostic.location.PointsAt (target, name, source) := by
  rcases List.mem_append.mp hmem with hmarkers | hpaths
  · have hmarker : exists marker, marker ∈ declared ∧ diagnostic.location = marker.location := by
      rcases List.mem_append.mp hmarkers with hpairs | htraits
      · rcases exists_of_mem_pairDiagnostics hpairs with ⟨marker, hmarker, _, hlocation⟩
        exact ⟨marker, hmarker, hlocation⟩
      · rcases exists_of_mem_traitDiagnostics htraits with ⟨marker, hmarker, _, _, hlocation⟩
        exact ⟨marker, hmarker, hlocation⟩
    rcases hmarker with ⟨marker, hmarker, hlocation⟩
    rw [hlocation]
    exact ⟨_, _, h.located marker hmarker⟩
  · rcases exists_of_mem_pathDiagnostics hpaths with ⟨method, hmethod, _, hlocation⟩
    rcases isPlaced_of_mem_candidates h hmethod with ⟨hplaced, hsource⟩
    rw [hlocation, ← hsource]
    exact ⟨_, _, hplaced.location⟩

end Aggregation
end PartialUpdate
