import PartialUpdate.Proofs.DeclarationOrder.Analysis

/-!
# Analyses of some of the sources

An analysis of the named sources is the analysis of all sources, cut down to what comes from the
named ones.  Only a function that gave way to sources which are not named is there again.
-/

namespace PartialUpdate
namespace Analysis

variable {table : TypeTable} {config : GeneratorConfig} {names : List String}

/-!
# Functions that give way
-/

/-- The rival is a function for the same pair, and its source comes first by name. -/
def outranks (rival method : UpdateMethod) : Bool :=
  rival.inherent && rival.pair == method.pair
    && Ordered.textLe rival.sourceType method.sourceType && rival.sourceType != method.sourceType

/-- The method is a function whose pair is claimed, or goes to one of the others. -/
def givesWay (claimed : List (String × String)) (methods : List UpdateMethod)
    (method : UpdateMethod) : Bool :=
  method.inherent
    && (claimed.contains method.pair || methods.any (fun rival => outranks rival method))

theorem outranks_of_pair_ne {rival method : UpdateMethod} (hpair : rival.pair ≠ method.pair) :
    outranks rival method = false := by
  simp only [outranks, beq_eq_false_iff_ne.mpr hpair, Bool.and_false, Bool.false_and]

theorem outranks_of_precedes {rival method : UpdateMethod}
    (h : MethodKey.Precedes rival.key method.key) :
    outranks rival method = (rival.inherent && rival.pair == method.pair) := by
  by_cases hpair : rival.pair = method.pair
  · have hle := h.1
    rw [MethodKey.le_of_pair_eq hpair] at hle
    have hsource : rival.sourceType ≠ method.sourceType := by
      intro hsource
      apply h.2
      have htarget : rival.targetType = method.targetType := congrArg Prod.fst hpair
      have hname : rival.methodName = method.methodName := congrArg Prod.snd hpair
      simp [UpdateMethod.key, htarget, hname, hsource]
    simp [outranks, hle, hsource]
  · rw [outranks_of_pair_ne hpair, beq_eq_false_iff_ne.mpr hpair, Bool.and_false]

theorem not_outranks_of_precedes {rival method : UpdateMethod}
    (h : MethodKey.Precedes method.key rival.key) : outranks rival method = false := by
  by_cases hpair : rival.pair = method.pair
  · have hle := h.1
    rw [MethodKey.le_of_pair_eq hpair.symm] at hle
    by_cases hback : Ordered.textLe rival.sourceType method.sourceType = true
    · have hsource := Ordered.textLe_isLinear.antisymm _ _ hback hle
      simp [outranks, hsource]
    · simp [outranks, hback]
  · exact outranks_of_pair_ne hpair

theorem givesWay_head (claimed : List (String × String)) {head : UpdateMethod}
    {rest : List UpdateMethod}
    (hhead : forall method, method ∈ rest -> MethodKey.Precedes head.key method.key) :
    givesWay claimed (head :: rest) head = (head.inherent && claimed.contains head.pair) := by
  have hself : outranks head head = false := by
    simp [outranks]
  have hrest : rest.any (fun rival => outranks rival head) = false := by
    apply List.any_eq_false.mpr
    intro rival hrival
    rw [not_outranks_of_precedes (hhead rival hrival)]
    exact Bool.false_ne_true
  rw [givesWay, List.any_cons, hself, hrest, Bool.or_false, Bool.or_false]

theorem givesWay_cons (claimed : List (String × String)) {head method : UpdateMethod}
    (rest : List UpdateMethod) (h : MethodKey.Precedes head.key method.key) :
    givesWay claimed (head :: rest) method =
      givesWay (if head.inherent then head.pair :: claimed else claimed) rest method := by
  rw [givesWay, givesWay, List.any_cons, outranks_of_precedes h, ← Bool.or_assoc]
  cases head.inherent with
  | false => simp
  | true =>
      rw [if_pos rfl, List.contains_cons, Bool.true_and, Bool.beq_comm, Bool.or_comm (claimed.contains _)]

theorem givesWay_claimed {claimed : List (String × String)} {pair : String × String}
    (hpair : claimed.contains pair = true) (methods : List UpdateMethod) :
    givesWay (pair :: claimed) methods = givesWay claimed methods := by
  funext method
  have hsame : (pair :: claimed).contains method.pair = claimed.contains method.pair := by
    by_cases hmethod : method.pair = pair
    · rw [hmethod, hpair]
      simp
    · simp [hmethod]
  rw [givesWay, givesWay, hsame]

/-- Of methods in ascending order those are late that give way: the first method is a rival of those
behind it, and once it is taken its pair is claimed. -/
theorem claim_eq_filter (claimed : List (String × String)) {methods : List UpdateMethod}
    (hsorted : methods.Pairwise (fun a b => MethodKey.Precedes a.key b.key)) :
    claim claimed methods =
      (methods.filter (fun method => !givesWay claimed methods method),
        methods.filter (givesWay claimed methods)) := by
  induction methods generalizing claimed with
  | nil => rfl
  | cons head rest ih =>
      rcases List.pairwise_cons.mp hsorted with ⟨hhead, hrest⟩
      have hself := givesWay_head claimed hhead
      have hothers : rest.filter (givesWay claimed (head :: rest)) =
          rest.filter (givesWay (if head.inherent then head.pair :: claimed else claimed) rest) :=
        List.filter_congr (fun method hmem => givesWay_cons claimed rest (hhead method hmem))
      have hothers' : rest.filter (fun method => !givesWay claimed (head :: rest) method) =
          rest.filter (fun method =>
            !givesWay (if head.inherent then head.pair :: claimed else claimed) rest method) :=
        List.filter_congr (fun method hmem =>
          congrArg not (givesWay_cons claimed rest (hhead method hmem)))
      rw [List.filter_cons, List.filter_cons, hself, hothers, hothers', claim]
      cases htaken : head.inherent && claimed.contains head.pair with
      | true =>
          rcases Bool.and_eq_true_iff.mp htaken with ⟨hinherent, hclaimed⟩
          simp [hinherent, givesWay_claimed hclaimed, ih claimed hrest]
      | false => simp [ih _ hrest]

/-!
# Units of the named sources
-/

theorem flatMap_filter_origin {α β : Type} {p : α -> Bool} {q : β -> Bool} {f : α -> List β}
    (h : forall origin result, result ∈ f origin -> q result = p origin) (origins : List α) :
    (origins.filter p).flatMap f = (origins.flatMap f).filter q := by
  induction origins with
  | nil => rfl
  | cons origin rest ih =>
      have hsame : (f origin).filter q = (f origin).filter (fun _ => p origin) :=
        List.filter_congr (fun result hresult => h origin result hresult)
      rw [List.flatMap_cons, List.filter_append, ← ih, List.filter_cons, hsame]
      cases p origin with
      | false => simp
      | true => simp

def namedSources (table : TypeTable) (names : List String) : List TypeInfo :=
  table.sources.filter (fun source => names.contains source.name)

theorem namedSources_methods (table : TypeTable) (config : GeneratorConfig)
    (names : List String) :
    (namedSources table names).flatMap
        (fun source => (UnitAnalysis.ofSource table config source).methods) =
      (unitMethods table config).filter (fun method => names.contains method.sourceType) := by
  apply flatMap_filter_origin
  intro source method hmem
  rw [(UnitAnalysis.isPlaced_of_mem hmem).2]

theorem namedSources_diagnostics (table : TypeTable) (config : GeneratorConfig)
    (names : List String) :
    (namedSources table names).flatMap
        (fun source => (UnitAnalysis.ofSource table config source).diagnostics) =
      (unitDiagnostics table config).filter
        (fun diagnostic => names.contains diagnostic.location.sourceType) := by
  apply flatMap_filter_origin
  intro source diagnostic hmem
  rw [UnitAnalysis.sourceType_of_mem_diagnostics hmem]

def rivalsOf (table : TypeTable) (config : GeneratorConfig) (method : UpdateMethod) :
    List UpdateMethod :=
  (unitMethods table config).filter (fun rival => outranks rival method)

/-- A function of a named source that gives way to other sources, none of which is named. -/
def isReadmitted (table : TypeTable) (config : GeneratorConfig) (names : List String)
    (method : UpdateMethod) : Bool :=
  method.inherent && names.contains method.sourceType && !(rivalsOf table config method).isEmpty
    && (rivalsOf table config method).all (fun rival => !names.contains rival.sourceType)

def ascendingNamed (table : TypeTable) (config : GeneratorConfig) (names : List String) :
    List UpdateMethod :=
  (sortMethods (unitMethods table config)).filter
    (fun method => names.contains method.sourceType)

theorem ascendingNamed_pairwise (config : GeneratorConfig) (names : List String)
    (h : table.names.Nodup) :
    (ascendingNamed table config names).Pairwise
      (fun a b => MethodKey.Precedes a.key b.key) :=
  (sortMethods_ascending config h).filter _

theorem sortMethods_namedSources (table : TypeTable) (config : GeneratorConfig)
    (names : List String) :
    sortMethods ((namedSources table names).flatMap
        (fun source => (UnitAnalysis.ofSource table config source).methods)) =
      ascendingNamed table config names := by
  rw [namedSources_methods, ascendingNamed, sortMethods, sortMethods]
  exact (Ordered.filter_sort Ordered.methodKeyLe_isLinear UpdateMethod.key _ _).symm

theorem analyze_methods_eq_filter (config : GeneratorConfig) (h : table.names.Nodup) :
    (analyze table config false).methods =
      (sortMethods (unitMethods table config)).filter
        (fun method => !givesWay [] (sortMethods (unitMethods table config)) method) := by
  rw [analyze_methods, claim_eq_filter [] (sortMethods_ascending config h)]

theorem analyzeSubset_methods (config : GeneratorConfig) (names : List String)
    (h : table.names.Nodup) :
    (analyzeSubset table names config false).methods =
      (ascendingNamed table config names).filter
        (fun method => !givesWay [] (ascendingNamed table config names) method) := by
  have hclaim := claim_eq_filter [] (ascendingNamed_pairwise config names h)
  rw [← sortMethods_namedSources] at hclaim ⊢
  simp only [analyzeSubset, ofSourcesUnless, ofSources, merge, List.flatMap_map,
    Bool.false_eq_true, if_false]
  exact congrArg Prod.fst hclaim

theorem analyzeSubset_diagnostics (config : GeneratorConfig) (names : List String)
    (h : table.names.Nodup) :
    (analyzeSubset table names config false).diagnostics =
      Diagnostic.sort
        ((unitDiagnostics table config).filter
            (fun diagnostic => names.contains diagnostic.location.sourceType)
          ++ ((ascendingNamed table config names).filter
              (givesWay [] (ascendingNamed table config names))).map lateDiagnostic) := by
  have hclaim := claim_eq_filter [] (ascendingNamed_pairwise config names h)
  rw [← sortMethods_namedSources] at hclaim ⊢
  simp only [analyzeSubset, ofSourcesUnless, ofSources, merge, List.flatMap_map,
    Bool.false_eq_true, if_false]
  have hlate := congrArg Prod.snd hclaim
  rw [← namedSources_diagnostics]
  exact congrArg (fun late => Diagnostic.sort (_ ++ late.map lateDiagnostic)) hlate

/-!
# What the named sources keep
-/

theorem any_ascendingNamed (table : TypeTable) (config : GeneratorConfig) (names : List String)
    (method : UpdateMethod) :
    (ascendingNamed table config names).any (fun rival => outranks rival method) =
      (rivalsOf table config method).any (fun rival => names.contains rival.sourceType) := by
  rw [Bool.eq_iff_iff, List.any_eq_true, List.any_eq_true]
  simp only [ascendingNamed, rivalsOf, List.mem_filter, mem_sortMethods]
  constructor
  · rintro ⟨rival, ⟨hmem, hnamed⟩, houtranks⟩
    exact ⟨rival, ⟨hmem, houtranks⟩, hnamed⟩
  · rintro ⟨rival, ⟨hmem, houtranks⟩, hnamed⟩
    exact ⟨rival, ⟨hmem, hnamed⟩, houtranks⟩

theorem any_sortMethods (table : TypeTable) (config : GeneratorConfig) (method : UpdateMethod) :
    (sortMethods (unitMethods table config)).any (fun rival => outranks rival method) =
      !(rivalsOf table config method).isEmpty := by
  rw [Bool.eq_iff_iff, List.any_eq_true, Bool.not_eq_true', List.isEmpty_eq_false_iff_exists_mem]
  simp only [rivalsOf, List.mem_filter, mem_sortMethods]

/-- A method is there again when it gives way in the whole and not among the named sources. -/
theorem isReadmitted_eq (table : TypeTable) (config : GeneratorConfig) (names : List String)
    (method : UpdateMethod) :
    isReadmitted table config names method =
      (names.contains method.sourceType
        && givesWay [] (sortMethods (unitMethods table config)) method
        && !givesWay [] (ascendingNamed table config names) method) := by
  rw [isReadmitted, givesWay, givesWay, any_ascendingNamed, any_sortMethods, List.all_eq_not_any_not]
  simp only [Bool.not_not, List.contains_nil, Bool.false_or]
  cases method.inherent <;> cases names.contains method.sourceType <;> simp

theorem givesWay_of_named {method : UpdateMethod}
    (h : givesWay [] (ascendingNamed table config names) method = true) :
    givesWay [] (sortMethods (unitMethods table config)) method = true := by
  rcases Bool.and_eq_true_iff.mp h with ⟨hinherent, hrival⟩
  rw [List.contains_nil, Bool.false_or] at hrival
  rcases List.any_eq_true.mp hrival with ⟨rival, hmem, houtranks⟩
  have hany : (sortMethods (unitMethods table config)).any
      (fun rival => outranks rival method) = true :=
    List.any_eq_true.mpr ⟨rival, List.mem_of_mem_filter hmem, houtranks⟩
  rw [givesWay, hinherent, hany, Bool.or_true, Bool.and_true]

theorem filter_not_readmitted (config : GeneratorConfig) (names : List String)
    (h : table.names.Nodup) :
    (analyzeSubset table names config false).methods.filter
        (fun method => !isReadmitted table config names method) =
      (analyze table config false).methods.filter
        (fun method => names.contains method.sourceType) := by
  rw [analyzeSubset_methods config names h, analyze_methods_eq_filter config h]
  conv => lhs; arg 2; arg 2; rw [ascendingNamed]
  rw [List.filter_filter, List.filter_filter, List.filter_filter]
  apply List.filter_congr
  intro method _hmem
  rw [isReadmitted_eq]
  cases hpart : givesWay [] (ascendingNamed table config names) method with
  | true =>
      rw [givesWay_of_named hpart]
      simp
  | false =>
      cases names.contains method.sourceType <;> simp

theorem givesWay_of_isReadmitted {method : UpdateMethod}
    (hreadmitted : isReadmitted table config names method = true) :
    names.contains method.sourceType = true
      ∧ givesWay [] (sortMethods (unitMethods table config)) method = true
      ∧ givesWay [] (ascendingNamed table config names) method = false := by
  rw [isReadmitted_eq, Bool.and_eq_true, Bool.and_eq_true, Bool.not_eq_true'] at hreadmitted
  exact ⟨hreadmitted.1.1, hreadmitted.1.2, hreadmitted.2⟩

theorem mem_analyzeSubset_of_isReadmitted (h : table.names.Nodup) {method : UpdateMethod}
    (hmem : method ∈ unitMethods table config)
    (hreadmitted : isReadmitted table config names method = true) :
    method ∈ (analyzeSubset table names config false).methods := by
  rcases givesWay_of_isReadmitted hreadmitted with ⟨hnamed, _, hkept⟩
  rw [analyzeSubset_methods config names h, ascendingNamed]
  apply List.mem_filter.mpr
  refine ⟨List.mem_filter.mpr ⟨mem_sortMethods.mpr hmem, hnamed⟩, ?_⟩
  rw [← ascendingNamed, hkept]
  rfl

theorem late_of_isReadmitted (h : table.names.Nodup) {method : UpdateMethod}
    (hmem : method ∈ unitMethods table config)
    (hreadmitted : isReadmitted table config names method = true) :
    method ∉ (analyze table config false).methods
      ∧ lateDiagnostic method ∈ (analyze table config false).diagnostics := by
  rcases givesWay_of_isReadmitted hreadmitted with ⟨_, hlate, _⟩
  constructor
  · intro hkept
    rw [analyze_methods_eq_filter config h] at hkept
    have hnot := (List.mem_filter.mp hkept).2
    rw [hlate] at hnot
    cases hnot
  · rw [mem_diagnostics, claim_eq_filter [] (sortMethods_ascending config h)]
    exact Or.inr ⟨method, List.mem_filter.mpr ⟨mem_sortMethods.mpr hmem, hlate⟩, rfl⟩

/-!
# Reports on the named sources
-/

theorem isPlaced_of_mem_unitMethods {method : UpdateMethod}
    (hmem : method ∈ unitMethods table config) : method.IsPlaced := by
  rcases List.mem_flatMap.mp hmem with ⟨source, _hsource, hmethod⟩
  exact (UnitAnalysis.isPlaced_of_mem hmethod).1

theorem lateDiagnostic_injective (h : table.names.Nodup) {method other : UpdateMethod}
    (hmem : method ∈ unitMethods table config) (hother : other ∈ unitMethods table config)
    (hsame : lateDiagnostic method = lateDiagnostic other) : method = other := by
  have hlocation : method.location = other.location := congrArg Diagnostic.location hsame
  have hpoints := (isPlaced_of_mem_unitMethods hmem).location
  rw [hlocation] at hpoints
  have hkey := hpoints.unique (isPlaced_of_mem_unitMethods hother).location
  exact List.inj_on_of_nodup_map (nodup_unitMethods_keys config h) hmem hother hkey

theorem ne_lateDiagnostic (h : table.names.Nodup) {diagnostic : Diagnostic}
    (hreported : diagnostic ∈ unitDiagnostics table config) {method : UpdateMethod}
    (hmem : method ∈ unitMethods table config) : diagnostic ≠ lateDiagnostic method := by
  rintro rfl
  rcases List.mem_flatMap.mp hreported with ⟨source, hsource, hdiagnostic⟩
  rcases List.mem_flatMap.mp hmem with ⟨own, hown, hmethod⟩
  have hplaced := UnitAnalysis.isPlaced_of_mem hmethod
  have hname : source.name = own.name := by
    rw [← UnitAnalysis.sourceType_of_mem_diagnostics hdiagnostic, ← hplaced.2]
    exact hplaced.1.location.2.2
  have hsame : source = own :=
    List.inj_on_of_nodup_map (List.pairwise_map.mpr (TypeTable.sources_pairwise h))
      hsource hown hname
  rw [hsame] at hdiagnostic
  exact UnitAnalysis.not_pointsAt_of_isError hmethod hdiagnostic rfl hplaced.1.location

/-- The report says that a method came late which is there again. -/
def isWithdrawn (table : TypeTable) (config : GeneratorConfig) (names : List String)
    (diagnostic : Diagnostic) : Bool :=
  (unitMethods table config).any (fun method =>
    isReadmitted table config names method && diagnostic == lateDiagnostic method)

theorem isWithdrawn_unit (h : table.names.Nodup) {diagnostic : Diagnostic}
    (hreported : diagnostic ∈ unitDiagnostics table config) :
    isWithdrawn table config names diagnostic = false := by
  apply List.any_eq_false.mpr
  intro method hmem hsame
  have hsame := (Bool.and_eq_true_iff.mp hsame).2
  exact ne_lateDiagnostic h hreported hmem (eq_of_beq hsame)

theorem isWithdrawn_late (h : table.names.Nodup) {method : UpdateMethod}
    (hmem : method ∈ unitMethods table config) :
    isWithdrawn table config names (lateDiagnostic method) =
      isReadmitted table config names method := by
  rw [Bool.eq_iff_iff, isWithdrawn, List.any_eq_true]
  constructor
  · rintro ⟨other, hother, hsame⟩
    rcases Bool.and_eq_true_iff.mp hsame with ⟨hreadmitted, hsame⟩
    rw [lateDiagnostic_injective h hmem hother (eq_of_beq hsame)]
    exact hreadmitted
  · intro hreadmitted
    exact ⟨method, hmem, by rw [hreadmitted, Bool.true_and, beq_self_eq_true]⟩

/-- The reports of an analysis that concern the named sources and still hold there. -/
def standsFor (table : TypeTable) (config : GeneratorConfig) (names : List String)
    (diagnostic : Diagnostic) : Bool :=
  names.contains diagnostic.location.sourceType && !isWithdrawn table config names diagnostic

theorem standsFor_late (h : table.names.Nodup) {method : UpdateMethod}
    (hmem : method ∈ unitMethods table config) :
    (standsFor table config names (lateDiagnostic method)
        && givesWay [] (sortMethods (unitMethods table config)) method) =
      (givesWay [] (ascendingNamed table config names) method
        && names.contains method.sourceType) := by
  have hsource : (lateDiagnostic method).location.sourceType = method.sourceType :=
    (isPlaced_of_mem_unitMethods hmem).location.2.2
  rw [standsFor, isWithdrawn_late h hmem, hsource, isReadmitted_eq]
  cases hpart : givesWay [] (ascendingNamed table config names) method with
  | true =>
      rw [givesWay_of_named hpart]
      simp
  | false =>
      cases names.contains method.sourceType <;> simp

theorem late_filter_standsFor (config : GeneratorConfig) (names : List String)
    (h : table.names.Nodup) :
    ((claim [] (sortMethods (unitMethods table config))).2.map lateDiagnostic).filter
        (standsFor table config names) =
      ((ascendingNamed table config names).filter
        (givesWay [] (ascendingNamed table config names))).map lateDiagnostic := by
  rw [claim_eq_filter [] (sortMethods_ascending config h), List.filter_map, List.filter_filter]
  conv => rhs; arg 2; arg 2; rw [ascendingNamed]
  rw [List.filter_filter]
  apply congrArg (List.map lateDiagnostic)
  apply List.filter_congr
  intro method hmem
  exact standsFor_late h (mem_sortMethods.mp hmem)

theorem diagnostics_eq_filter (config : GeneratorConfig) (names : List String)
    (h : table.names.Nodup) :
    (analyzeSubset table names config false).diagnostics =
      (analyze table config false).diagnostics.filter (standsFor table config names) := by
  have hunits : (unitDiagnostics table config).filter (standsFor table config names) =
      (unitDiagnostics table config).filter
        (fun diagnostic => names.contains diagnostic.location.sourceType) := by
    apply List.filter_congr
    intro diagnostic hreported
    rw [standsFor, isWithdrawn_unit h hreported, Bool.not_false, Bool.and_true]
  rw [analyzeSubset_diagnostics config names h, analyze_diagnostics, Diagnostic.sort,
    Diagnostic.sort, Ordered.filter_sort Ordered.keyLe_isLinear Diagnostic.sortKey,
    List.filter_append, late_filter_standsFor config names h]
  exact congrArg (fun units => List.mergeSort (units ++ _) _) hunits.symm

/-!
# The part and the whole
-/

/-- How the analysis of the named sources compares with that of all sources. -/
structure IsPart (table : TypeTable) (config : GeneratorConfig) (names : List String)
    (whole part : Analysis) : Prop where
  /-- Without the methods that are there again, the methods of the named sources are the same. -/
  methods : part.methods.filter (fun method => !isReadmitted table config names method) =
    whole.methods.filter (fun method => names.contains method.sourceType)
  units : forall method, method ∈ part.methods -> method ∈ unitMethods table config
  ascending : part.methods.Pairwise (fun a b => MethodKey.Precedes a.key b.key)
  readmitted : forall method, method ∈ unitMethods table config ->
    isReadmitted table config names method = true ->
      method ∈ part.methods ∧ method ∉ whole.methods
        ∧ lateDiagnostic method ∈ whole.diagnostics ∧ lateDiagnostic method ∉ part.diagnostics
  /-- The reports at the named sources are the same, but for those on methods that are there
  again. -/
  diagnostics : part.diagnostics = whole.diagnostics.filter (fun diagnostic =>
    names.contains diagnostic.location.sourceType
      && !isWithdrawn table config names diagnostic)
  cancelled : part.cancelled = [] ∧ whole.cancelled = []

/-- The analysis of named sources is that part of the whole which comes from them, but for the
functions that only gave way to sources which are not named.  Names of no source do not
matter. -/
theorem analyzeSubset_isPart (table : TypeTable) (config : GeneratorConfig)
    (names : List String) (h : table.names.Nodup) :
    IsPart table config names (analyze table config false)
        (analyzeSubset table names config false)
      ∧ forall others : List String,
          (forall source, source ∈ table.sources ->
            (source.name ∈ others ↔ source.name ∈ names)) ->
          analyzeSubset table others config false = analyzeSubset table names config false := by
  constructor
  · refine ⟨filter_not_readmitted config names h, ?_, ?_, ?_,
      diagnostics_eq_filter config names h, ⟨rfl, rfl⟩⟩
    · intro method hmem
      rw [analyzeSubset_methods config names h] at hmem
      exact mem_sortMethods.mp (List.mem_of_mem_filter (List.mem_of_mem_filter hmem))
    · rw [analyzeSubset_methods config names h]
      exact (ascendingNamed_pairwise config names h).filter _
    · intro method hmem hreadmitted
      rcases late_of_isReadmitted h hmem hreadmitted with ⟨hgone, hreported⟩
      refine ⟨mem_analyzeSubset_of_isReadmitted h hmem hreadmitted, hgone, hreported, ?_⟩
      rw [diagnostics_eq_filter config names h]
      intro hstands
      have hstands := (List.mem_filter.mp hstands).2
      rw [standsFor, isWithdrawn_late h hmem, hreadmitted, Bool.not_true, Bool.and_false] at hstands
      cases hstands
  · intro others hothers
    have hsame : namedSources table others = namedSources table names := by
      apply List.filter_congr
      intro source hsource
      rw [Bool.eq_iff_iff, List.contains_iff_mem, List.contains_iff_mem]
      exact hothers source hsource
    rw [analyzeSubset, analyzeSubset]
    exact congrArg (ofSourcesUnless false table config) hsame

theorem analyzeSubset_rivals :
    analyzeSubset rivals ["RenameB", "Nobody"] {} false =
      ⟨[rivalMethod "RenameB" "Group" false, rivalMethod "RenameB" "User" true], [], []⟩ := by
  let units := (namedSources rivals ["RenameB", "Nobody"]).map (UnitAnalysis.ofSource rivals {})
  have hunits : units =
      [⟨[rivalMethod "RenameB" "Group" false, rivalMethod "RenameB" "User" true], []⟩] :=
    congrArg (List.take 1) units_rivals
  have hsort : Diagnostic.sort [] = [] := List.mergeSort_nil
  show merge units = _
  rw [hunits, merge_of_perm (List.Perm.refl _) (by decide)]
  exact congrArg (fun diagnostics => Analysis.mk _ diagnostics []) hsort

theorem analyzeSubset_isPart_rivals :
    rivals.names.Nodup
      ∧ IsPart rivals {} ["RenameB", "Nobody"] (analyze rivals {} false)
        (analyzeSubset rivals ["RenameB", "Nobody"] {} false)
      ∧ analyzeSubset rivals ["RenameB"] {} false =
        analyzeSubset rivals ["RenameB", "Nobody"] {} false
      ∧ (analyzeSubset rivals ["RenameB", "Nobody"] {} false).methods =
        [rivalMethod "RenameB" "Group" false, rivalMethod "RenameB" "User" true]
      ∧ rivalMethod "RenameB" "User" true ∉ (analyze rivals {} false).methods
      ∧ lateDiagnostic (rivalMethod "RenameB" "User" true) ∈ (analyze rivals {} false).diagnostics
      ∧ (analyzeSubset rivals ["RenameB", "Nobody"] {} false).diagnostics = [] := by
  have hnodup : rivals.names.Nodup := by
    decide
  rcases analyzeSubset_isPart rivals {} ["RenameB", "Nobody"] hnodup with ⟨hpart, hothers⟩
  refine ⟨hnodup, hpart, hothers ["RenameB"] (by decide), by rw [analyzeSubset_rivals], ?_, ?_,
    by rw [analyzeSubset_rivals]⟩
  · rw [analyze_rivals]
    decide
  · rw [analyze_rivals]
    exact List.mem_singleton_self _

end Analysis
end PartialUpdate
