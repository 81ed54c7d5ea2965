import PartialUpdate.Proofs.DeclarationOrder.Analysis
import PartialUpdate.Proofs.Except
import PartialUpdate.Proofs.Repetition

/-!
# What an aggregation keeps and reports

A method is kept if its pair is declared once, if the extension trait would give its name to no
other target, and if it writes no path twice.  For each of these conditions there is a group of
reports.  The first two are judged on the markers as declared, so that a marker counts whose
method the validation dropped; the third on the methods that the first two let through.
-/

namespace PartialUpdate

/-!
# Enumerations
-/

namespace Ordered

/-- The list has the items of a kind, each one time and in ascending order of its key. -/
structure Enumerates {α κ : Type} (le : κ -> κ -> Bool) (key : α -> κ) (kind : α -> Prop)
    (items : List α) : Prop where
  ascending : items.Pairwise (fun a b => le (key a) (key b) = true ∧ key a ≠ key b)
  each : forall item, item ∈ items ↔ kind item

namespace Enumerates

variable {α κ : Type} {le : κ -> κ -> Bool} {key : α -> κ} {kind other : α -> Prop}
variable {items others : List α}

theorem unique (hle : IsLinear le) (h : Enumerates le key kind items)
    (h' : Enumerates le key kind others) : items = others := by
  have hperm : items.Perm others := by
    apply (List.perm_ext_iff_of_nodup (h.ascending.imp fun hab heq => hab.2 (congrArg key heq))
      (h'.ascending.imp fun hab heq => hab.2 (congrArg key heq))).mpr
    intro item
    rw [h.each, h'.each]
  apply hperm.eq_of_pairwise _ h.ascending h'.ascending
  rintro a b _ha _hb ⟨hab, hne⟩ ⟨hba, _⟩
  exact absurd (hle.antisymm _ _ hab hba) hne

theorem filter (h : Enumerates le key kind items) {test : α -> Bool}
    (htest : forall item, other item ↔ kind item ∧ test item = true) :
    Enumerates le key other (items.filter test) where
  ascending := h.ascending.filter test
  each := by
    intro item
    rw [List.mem_filter, h.each, htest]

theorem sort_eraseDups [BEq α] [LawfulBEq α] (hle : IsLinear le) (items : List α)
    (hkey : forall a b, key a = key b -> a = b) :
    Enumerates le key (fun item => item ∈ items)
      (items.eraseDups.mergeSort (fun a b => le (key a) (key b))) where
  ascending := by
    apply pairwise_sort_of_nodup hle key
    exact (nodup_eraseDups items).map (fun a b => hkey a b)
  each := by
    intro item
    rw [List.mem_mergeSort, List.mem_eraseDups]

end Enumerates
end Ordered

namespace Aggregation

theorem sortedPairs_enumerates (pairs : List (String × String)) :
    Ordered.Enumerates pairLe id (fun pair => pair ∈ pairs) (sortedPairs pairs) :=
  .sort_eraseDups pairLe_isLinear pairs (fun _ _ h => h)

theorem sortedNames_enumerates (names : List String) :
    Ordered.Enumerates Ordered.textLe id (fun name => name ∈ names) (sortedNames names) :=
  .sort_eraseDups Ordered.textLe_isLinear names (fun _ _ h => h)

end Aggregation

/-!
# The outcome
-/

/-- The extension trait would give the name to the method of a marker. -/
def DeclaredMethod.IsInTrait (method : DeclaredMethod) (name : String) : Prop :=
  method.inherent = false ∧ method.methodName = name

def UpdateMethod.storedPaths (method : UpdateMethod) : List String :=
  method.bindings.map (fun binding => binding.target.path)

namespace Aggregation

def HasTwoTargets (declared : List DeclaredMethod) (name : String) : Prop :=
  exists a b, a ∈ declared ∧ b ∈ declared ∧ a.IsInTrait name ∧ b.IsInTrait name
    ∧ a.targetType ≠ b.targetType

/-- The first marker that would give the name to a second target in the trait. -/
def IsSecondTarget (declared : List DeclaredMethod) (name : String) (clash : DeclaredMethod) :
    Prop :=
  exists front first between after, declared = front ++ first :: (between ++ clash :: after)
    ∧ first.IsInTrait name ∧ clash.IsInTrait name ∧ clash.targetType ≠ first.targetType
    ∧ (forall marker, marker ∈ front -> ¬ marker.IsInTrait name)
    ∧ forall marker, marker ∈ between -> marker.IsInTrait name ->
        marker.targetType = first.targetType

/-- Neither the pair of a method nor its name in the trait is ambiguous. -/
structure IsClear (declared : List DeclaredMethod) (method : UpdateMethod) : Prop where
  once : (declared.map DeclaredMethod.pair).count method.pair = 1
  alone : method.inherent = false -> forall marker, marker ∈ declared ->
    marker.IsInTrait method.methodName -> marker.targetType = method.targetType

def pairReport (source : String) (pair : String × String) : Diagnostic :=
  ⟨.duplicateMethod pair.2 pair.1, (Location.source source).withMethod pair.1 pair.2⟩

def nameReport (source : String) (config : GeneratorConfig) (clash : DeclaredMethod) :
    Diagnostic :=
  ⟨.methodNameAlreadyExists clash.methodName (source ++ config.extensionSuffix), clash.location⟩

def pathReport (method : UpdateMethod) (path : String) : Diagnostic :=
  ⟨.duplicateTargetPath path method.methodName, method.location⟩

/-- The reports on pairs that are declared again, then those on names of several targets, then
those on the repeated paths of the methods that are left. -/
def Reports (source : String) (declared : List DeclaredMethod) (passed : List UpdateMethod)
    (config : GeneratorConfig) (diagnostics : List Diagnostic) : Prop :=
  exists pairs names clashes clear, exists again : UpdateMethod -> List String,
    Ordered.Enumerates pairLe id
        (fun pair => 2 ≤ (declared.map DeclaredMethod.pair).count pair) pairs
      ∧ Ordered.Enumerates Ordered.textLe id (HasTwoTargets declared) names
      ∧ List.Forall₂ (IsSecondTarget declared) names clashes
      ∧ Ordered.Enumerates pairLe UpdateMethod.pair
          (fun method => method ∈ passed ∧ IsClear declared method) clear
      ∧ (forall method, method ∈ clear -> Repeats method.storedPaths (again method))
      ∧ diagnostics = pairs.map (pairReport source) ++ clashes.map (nameReport source config)
          ++ clear.flatMap (fun method => (again method).map (pathReport method))

/-- What comes of the methods that passed the validation, by all markers of their source. -/
structure IsOutcome (source : String) (declared : List DeclaredMethod)
    (passed : List UpdateMethod) (config : GeneratorConfig) (outcome : Aggregation) : Prop where
  methods : Ordered.Enumerates pairLe UpdateMethod.pair
    (fun method => method ∈ passed ∧ IsClear declared method ∧ method.storedPaths.Nodup)
    outcome.methods
  ordered : forall method, method ∈ outcome.methods ->
    method.bindings.Pairwise (fun a b => a.order < b.order)
  diagnostics : Reports source declared passed config outcome.diagnostics

variable {source name : String} {declared : List DeclaredMethod} {passed : List UpdateMethod}
variable {config : GeneratorConfig} {pair : String × String} {clash : DeclaredMethod}

/-!
# Ambiguous pairs
-/

theorem length_declaring (declared : List DeclaredMethod) (pair : String × String) :
    (declaring declared pair).length = (declared.map DeclaredMethod.pair).count pair := by
  rw [declaring, ← List.countP_eq_length_filter, List.count, List.countP_map]
  rfl

theorem isAmbiguousPair_iff :
    isAmbiguousPair declared pair = true ↔
      2 ≤ (declared.map DeclaredMethod.pair).count pair := by
  rw [isAmbiguousPair, length_declaring, decide_eq_true_iff]
  rfl

/-- Markers of one source and one pair stand at one place, whichever of them is reported. -/
theorem pairDiagnostic?_eq
    (hlocated : forall marker, marker ∈ declared -> marker.location =
      (Location.source source).withMethod marker.targetType marker.methodName) :
    pairDiagnostic? declared pair =
      if isAmbiguousPair declared pair then some (pairReport source pair) else none := by
  unfold pairDiagnostic? isAmbiguousPair
  match hdeclaring : declaring declared pair with
  | [] => rfl
  | [_] => rfl
  | first :: second :: rest =>
      have hfirst : first ∈ declaring declared pair := by
        rw [hdeclaring]
        exact List.mem_cons_self
      rcases List.mem_filter.mp hfirst with ⟨hmem, hpair⟩
      have hpair : first.pair = pair := by simpa using hpair
      rw [if_pos (by simp)]
      simp only [pairReport, hlocated first hmem, ← hpair]
      rfl

theorem pairDiagnostics_eq
    (hlocated : forall marker, marker ∈ declared -> marker.location =
      (Location.source source).withMethod marker.targetType marker.methodName) :
    pairDiagnostics declared =
      ((sortedPairs (declared.map DeclaredMethod.pair)).filter (isAmbiguousPair declared)).map
        (pairReport source) := by
  rw [← List.filterMap_eq_map, List.filterMap_filter, pairDiagnostics]
  congr 1
  funext pair
  exact pairDiagnostic?_eq hlocated

theorem ambiguousPairs_enumerates (declared : List DeclaredMethod) :
    Ordered.Enumerates pairLe id
      (fun pair => 2 ≤ (declared.map DeclaredMethod.pair).count pair)
      ((sortedPairs (declared.map DeclaredMethod.pair)).filter (isAmbiguousPair declared)) := by
  apply (sortedPairs_enumerates _).filter
  intro pair
  rw [isAmbiguousPair_iff]
  constructor
  · intro htwo
    exact ⟨List.count_pos_iff.mp (Nat.lt_of_lt_of_le Nat.two_pos htwo), htwo⟩
  · rintro ⟨_hmem, htwo⟩
    exact htwo

/-!
# Names of several targets
-/

theorem mem_inTrait_iff {method : DeclaredMethod} :
    method ∈ inTrait declared name ↔ method ∈ declared ∧ method.IsInTrait name :=
  mem_inTrait

theorem find?_firstPerTarget (declared : List DeclaredMethod) (target : String) :
    (firstPerTarget declared).find? (fun method => method.targetType != target) =
      declared.find? (fun method => method.targetType != target) := by
  induction declared with
  | nil => rfl
  | cons head rest ih =>
      by_cases htarget : head.targetType = target
      · rw [firstPerTarget, List.find?_cons_of_neg (by simpa using htarget),
          List.find?_cons_of_neg (by simpa using htarget), htarget, ← List.head?_filter,
          List.filter_filter]
        simp only [Bool.and_self, List.head?_filter]
        exact ih
      · rw [firstPerTarget, List.find?_cons_of_pos (by simpa using htarget),
          List.find?_cons_of_pos (by simpa using htarget)]

theorem traitClash?_of_inTrait {first : DeclaredMethod} {rest : List DeclaredMethod}
    (h : inTrait declared name = first :: rest) :
    traitClash? declared name =
      rest.find? (fun method => method.targetType != first.targetType) := by
  rw [traitClash?, h, firstPerTarget, List.getElem?_cons_succ, ← List.head?_eq_getElem?,
    List.head?_filter, find?_firstPerTarget]

theorem traitClash?_eq_some_iff :
    traitClash? declared name = some clash ↔ IsSecondTarget declared name clash := by
  have htrait (method : DeclaredMethod) :
      (!method.inherent && method.methodName == name) = true ↔ method.IsInTrait name := by
    simp [DeclaredMethod.IsInTrait]
  constructor
  · intro h
    cases hall : inTrait declared name with
    | nil =>
        rw [traitClash?, hall] at h
        cases h
    | cons first rest =>
        rw [traitClash?_of_inTrait hall] at h
        rcases List.filter_eq_cons_iff.mp hall with ⟨front, more, rfl, hfront, hfirst, rfl⟩
        rw [List.find?_filter] at h
        rcases List.find?_eq_some_iff_append.mp h with ⟨hclash, between, after, rfl, hbetween⟩
        rw [decide_eq_true_iff, htrait] at hclash
        refine ⟨front, first, between, after, rfl, (htrait first).mp hfirst, hclash.1,
          by simpa using hclash.2, ?_, ?_⟩
        · intro marker hmem hmarker
          exact hfront marker hmem ((htrait marker).mpr hmarker)
        · intro marker hmem hmarker
          have hsame := hbetween marker hmem
          simp only [Bool.not_eq_true', decide_eq_false_iff_not, not_and, htrait] at hsame
          simpa using hsame hmarker
  · rintro ⟨front, first, between, after, rfl, hfirst, hclash, hne, hfront, hbetween⟩
    have hall := List.filter_eq_cons_iff.mpr ⟨front, between ++ clash :: after, rfl,
      fun marker hmem hmarker => hfront marker hmem ((htrait marker).mp hmarker),
      (htrait first).mpr hfirst, rfl⟩
    rw [traitClash?_of_inTrait hall, List.find?_filter]
    refine List.find?_eq_some_iff_append.mpr ⟨?_, between, after, rfl, ?_⟩
    · rw [decide_eq_true_iff, htrait]
      exact ⟨hclash, by simpa using hne⟩
    · intro marker hmem
      simp only [Bool.not_eq_true', decide_eq_false_iff_not, not_and, htrait]
      intro hmarker
      simpa using hbetween marker hmem hmarker

/-- A function of the target type takes no name in the trait, and a third target no second
report. -/
example :
    let marker (target : String) (inherent : Bool) : DeclaredMethod :=
      ⟨target, "rename", inherent, Location.source "Patch"⟩
    traitClash? [marker "B" true, marker "A" false, marker "A" false, marker "C" false,
      marker "D" false] "rename" = some (marker "C" false) := by
  decide

theorem traitClash?_isSome_iff_hasTwoTargets :
    (traitClash? declared name).isSome = true ↔ HasTwoTargets declared name := by
  rw [traitClash?_isSome_iff]
  simp only [mem_inTrait_iff]
  constructor
  · rintro ⟨a, ⟨ha, hnameA⟩, b, ⟨hb, hnameB⟩, hne⟩
    exact ⟨a, b, ha, hb, hnameA, hnameB, hne⟩
  · rintro ⟨a, b, ha, hb, hnameA, hnameB, hne⟩
    exact ⟨a, ⟨ha, hnameA⟩, b, ⟨hb, hnameB⟩, hne⟩

def traitNames (declared : List DeclaredMethod) : List String :=
  sortedNames ((declared.filter (fun method => !method.inherent)).map DeclaredMethod.methodName)

def clashingNames (declared : List DeclaredMethod) : List String :=
  (traitNames declared).filter (fun name => (traitClash? declared name).isSome)

theorem clashingNames_enumerates (declared : List DeclaredMethod) :
    Ordered.Enumerates Ordered.textLe id (HasTwoTargets declared) (clashingNames declared) := by
  apply (sortedNames_enumerates _).filter
  intro name
  rw [traitClash?_isSome_iff_hasTwoTargets]
  constructor
  · intro htwo
    refine ⟨?_, htwo⟩
    rcases htwo with ⟨a, _b, ha, _hb, ⟨hmode, hname⟩, _, _⟩
    exact List.mem_map.mpr ⟨a, List.mem_filter.mpr ⟨ha, by simp [hmode]⟩, hname⟩
  · rintro ⟨_hmem, htwo⟩
    exact htwo

theorem forall₂_isSecondTarget (declared : List DeclaredMethod) :
    List.Forall₂ (IsSecondTarget declared) (clashingNames declared)
      ((clashingNames declared).filterMap (traitClash? declared)) := by
  apply (forall₂_filterMap _).imp
  · intro name clash hclash
    exact traitClash?_eq_some_iff.mp hclash
  · intro name hname
    exact Option.isSome_iff_exists.mp (List.mem_filter.mp hname).2

theorem traitDiagnostic?_eq
    (hsource : forall marker, marker ∈ declared -> marker.location.sourceType = source) :
    traitDiagnostic? declared config name =
      (traitClash? declared name).map (nameReport source config) := by
  cases hclash : traitClash? declared name with
  | none =>
      rw [traitDiagnostic?, hclash]
      rfl
  | some clash =>
      rcases mem_inTrait_iff.mp (mem_inTrait_of_traitClash? hclash) with ⟨hmem, _hmode, hname⟩
      rw [traitDiagnostic?, hclash, ← hname]
      simp [nameReport, hsource clash hmem]

theorem traitDiagnostics_eq (config : GeneratorConfig)
    (hsource : forall marker, marker ∈ declared -> marker.location.sourceType = source) :
    traitDiagnostics declared config =
      ((clashingNames declared).filterMap (traitClash? declared)).map
        (nameReport source config) := by
  rw [clashingNames, List.filterMap_filter, List.map_filterMap, traitDiagnostics]
  congr 1
  funext name
  rw [traitDiagnostic?_eq hsource]
  cases traitClash? declared name <;> rfl

/-!
# Methods that are left
-/

theorem isClear_iff (h : Declares source declared passed) {method : UpdateMethod}
    (hmem : method ∈ passed) :
    IsClear declared method ↔ isAmbiguousPair declared method.pair = false
      ∧ (method.inherent = true ∨ traitClash? declared method.methodName = none) := by
  rcases h.marked method hmem with ⟨marker, hmarker, hpair, hmode⟩
  have hpositive : 0 < (declared.map DeclaredMethod.pair).count method.pair := by
    rw [List.count_pos_iff, ← hpair]
    exact List.mem_map_of_mem hmarker
  have honce : isAmbiguousPair declared method.pair = false ↔
      (declared.map DeclaredMethod.pair).count method.pair = 1 := by
    rw [← Bool.not_eq_true, isAmbiguousPair_iff]
    omega
  have hnone : traitClash? declared method.methodName = none ↔
      ¬ HasTwoTargets declared method.methodName := by
    rw [← traitClash?_isSome_iff_hasTwoTargets, Option.not_isSome_iff_eq_none]
  rw [honce, hnone]
  constructor
  · intro hclear
    refine ⟨hclear.once, ?_⟩
    cases hinherent : method.inherent with
    | true => exact Or.inl rfl
    | false =>
        right
        rintro ⟨a, b, ha, hb, hnameA, hnameB, hne⟩
        apply hne
        rw [hclear.alone hinherent a ha hnameA, hclear.alone hinherent b hb hnameB]
  · rintro ⟨hcount, hclash⟩
    refine ⟨hcount, ?_⟩
    intro hinherent other hother hname
    rcases hclash with htrue | htwo
    · rw [htrue] at hinherent
      cases hinherent
    · by_contra hne
      apply htwo
      have htarget : marker.targetType = method.targetType := congrArg Prod.fst hpair
      refine ⟨other, marker, hother, hmarker, hname,
        ⟨hmode.trans hinherent, congrArg Prod.snd hpair⟩, ?_⟩
      rw [htarget]
      exact hne

theorem mem_candidates_iff (h : Declares source declared passed) {method : UpdateMethod} :
    method ∈ candidates declared passed ↔ method ∈ passed ∧ IsClear declared method := by
  rw [mem_candidates]
  constructor
  · rintro ⟨original, hfilter, hpair, hclash, rfl⟩
    have horiginal := (pair_of_filter_eq hfilter).1
    rw [sortedBindings_of_isPlaced (h.placed original horiginal).1]
    exact ⟨horiginal, (isClear_iff h horiginal).mpr ⟨hpair, hclash⟩⟩
  · rintro ⟨hmem, hclear⟩
    rcases (isClear_iff h hmem).mp hclear with ⟨hpair, hclash⟩
    exact ⟨method, filter_pair_eq_singleton h hmem hpair, hpair, hclash,
      sortedBindings_of_isPlaced (h.placed method hmem).1⟩

theorem candidates_enumerates (h : Declares source declared passed) :
    Ordered.Enumerates pairLe UpdateMethod.pair
      (fun method => method ∈ passed ∧ IsClear declared method)
      (candidates declared passed) where
  ascending := by
    apply List.Pairwise.filterMap _ _
      (sortedPairs_enumerates (passed.map UpdateMethod.pair)).ascending
    intro pair pair' hpairs a ha b hb
    rcases candidate?_eq_some.mp ha with ⟨methodA, hfilterA, _, _, rfl⟩
    rcases candidate?_eq_some.mp hb with ⟨methodB, hfilterB, _, _, rfl⟩
    rw [sortedBindings_pair, sortedBindings_pair, (pair_of_filter_eq hfilterA).2,
      (pair_of_filter_eq hfilterB).2]
    exact hpairs
  each := by
    intro method
    exact mem_candidates_iff h

theorem methods_enumerates (h : Declares source declared passed) :
    Ordered.Enumerates pairLe UpdateMethod.pair
      (fun method => method ∈ passed ∧ IsClear declared method ∧ method.storedPaths.Nodup)
      (aggregate passed declared config).methods := by
  apply (candidates_enumerates h).filter
  intro method
  rw [List.isEmpty_iff, repeatedPaths_eq_nil_iff, and_assoc]
  rfl

theorem reports_aggregate (config : GeneratorConfig) (h : Declares source declared passed)
    (hlocated : forall marker, marker ∈ declared -> marker.location =
      (Location.source source).withMethod marker.targetType marker.methodName) :
    Reports source declared passed config (aggregate passed declared config).diagnostics := by
  have hsource : forall marker, marker ∈ declared -> marker.location.sourceType = source := by
    intro marker hmem
    rw [hlocated marker hmem]
    rfl
  refine ⟨_, _, _, _, repeatedPaths, ambiguousPairs_enumerates declared,
    clashingNames_enumerates declared, forall₂_isSecondTarget declared, candidates_enumerates h,
    fun method _ => repeatedPaths_repeats method, ?_⟩
  rw [← pairDiagnostics_eq hlocated, ← traitDiagnostics_eq config hsource]
  rfl

theorem location_of_mem_declared {table : TypeTable} {info : TypeInfo} {marker : DeclaredMethod}
    (hmem : marker ∈ (resolve info table config).declared) :
    marker.location =
      (Location.source info.name).withMethod marker.targetType marker.methodName := by
  rcases List.mem_map.mp hmem with ⟨resolved, hresolved, rfl⟩
  rcases List.mem_map.mp hresolved with ⟨spec, _hspec, rfl⟩
  rfl

/-!
# Nothing else comes out
-/

theorem rightUnique_isSecondTarget (declared : List DeclaredMethod) :
    Relator.RightUnique (IsSecondTarget declared) := by
  intro name clash clash' h h'
  have hclash := traitClash?_eq_some_iff.mpr h
  rw [traitClash?_eq_some_iff.mpr h'] at hclash
  exact (Option.some.inj hclash).symm

theorem Reports.unique {diagnostics others : List Diagnostic}
    (h : Reports source declared passed config diagnostics)
    (h' : Reports source declared passed config others) : diagnostics = others := by
  rcases h with ⟨pairs, names, clashes, clear, again, hpairs, hnames, hclashes, hclear, hagain,
    rfl⟩
  rcases h' with ⟨pairs', names', clashes', clear', again', hpairs', hnames', hclashes', hclear',
    hagain', rfl⟩
  cases hpairs.unique pairLe_isLinear hpairs'
  cases hnames.unique Ordered.textLe_isLinear hnames'
  cases hclear.unique pairLe_isLinear hclear'
  cases (rightUnique_isSecondTarget declared).forall₂ hclashes hclashes'
  congr 1
  apply List.flatMap_congr
  intro method hmem
  rw [(hagain method hmem).unique (hagain' method hmem)]

theorem IsOutcome.unique {outcome other : Aggregation}
    (h : IsOutcome source declared passed config outcome)
    (h' : IsOutcome source declared passed config other) : outcome = other := by
  rcases outcome with ⟨methods, diagnostics⟩
  rcases other with ⟨methods', diagnostics'⟩
  cases h.methods.unique pairLe_isLinear h'.methods
  cases h.diagnostics.unique h'.diagnostics
  rfl

theorem isOutcome_aggregate (config : GeneratorConfig) (h : Declares source declared passed)
    (hlocated : forall marker, marker ∈ declared -> marker.location =
      (Location.source source).withMethod marker.targetType marker.methodName) :
    IsOutcome source declared passed config (aggregate passed declared config) where
  methods := methods_enumerates h
  ordered := by
    intro method hmem
    exact (h.placed method (((methods_enumerates h).each method).mp hmem).1).1.ascending
  diagnostics := reports_aggregate config h hlocated

/-- The aggregation of a source is the one outcome that its markers and the methods that passed
the validation have. -/
theorem isOutcome_iff_eq_aggregate (source : TypeInfo) (table : TypeTable)
    (config : GeneratorConfig) (outcome : Aggregation) :
    IsOutcome source.name (resolve source table config).declared
        (validate source (resolve source table config) table).methods config outcome ↔
      outcome = aggregate (validate source (resolve source table config) table).methods
        (resolve source table config).declared config := by
  have houtcome := isOutcome_aggregate config (validate_declares source table config)
    (fun _marker hmem => location_of_mem_declared hmem)
  constructor
  · intro h
    exact h.unique houtcome
  · rintro rfl
    exact houtcome

end Aggregation
end PartialUpdate
