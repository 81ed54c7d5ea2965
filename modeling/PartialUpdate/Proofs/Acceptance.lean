import PartialUpdate.Proofs.Except
import PartialUpdate.Validation

/-!
# Which methods are accepted

The rules that a marker and the bindings of its method have to keep, stated on the
declarations and the types that they lead to.  The validation decides them: it describes the
methods of exactly those markers that keep all of them, in their order, and it looks at each
method alone.
-/

namespace PartialUpdate

/-!
# The rules for a binding
-/

namespace ResolvedBinding

/-- The rules about the options of a binding and the field that it writes.  An option that is
left out of the spec is under no rule, but the handling and whether the source value is a
sequence are those after the defaults are filled in. -/
structure Fits (binding : ResolvedBinding) (target : ResolvedTarget) : Prop where
  handling : binding.options.collectionHandling ≠ .set -> target.type.isSequence = true
  ignoreEmpty : binding.spec.ignoreEmpty ≠ none ->
    target.type.isCollection = true ∨ target.type.isText = true
  useStringEmpty : binding.spec.useStringEmpty ≠ none -> target.type.isText = true
  ignoreNull : binding.spec.ignoreNull ≠ none ->
    binding.source.isNullable = true ∨ target.type.nullable = true
  sequence : binding.options.collectionHandling = .set ->
    binding.source.isSequence binding.options = true -> target.type.isCollection = true

def SourceIsAdmissible (binding : ResolvedBinding) : Prop :=
  forall name type, binding.source = .property name type ->
    Name.isEmittable name = true ∧ binding.spec.isSourceArray ≠ some true

structure IsAdmissible (binding : ResolvedBinding) : Prop where
  source : binding.SourceIsAdmissible
  target : exists target, binding.target = .ok target ∧ binding.Fits target

/-!
A rule is kept exactly when its check finds no problem.
-/

variable {binding : ResolvedBinding} {target : ResolvedTarget}

theorem handlingProblems_eq_nil :
    binding.handlingProblems target = [] ↔
      (binding.options.collectionHandling ≠ .set -> target.type.isSequence = true) := by
  unfold handlingProblems TypeRef.isCollection TypeRef.isSequence TypeRef.isMap
  cases target.type.kind <;> simp

theorem ignoreEmptyProblems_eq_nil :
    binding.ignoreEmptyProblems target = [] ↔
      (binding.spec.ignoreEmpty ≠ none ->
        target.type.isCollection = true ∨ target.type.isText = true) := by
  unfold ignoreEmptyProblems
  cases binding.spec.ignoreEmpty <;> cases target.type.isCollection <;> simp

theorem stringEmptyProblems_eq_nil :
    binding.stringEmptyProblems target = [] ↔
      (binding.spec.useStringEmpty ≠ none -> target.type.isText = true) := by
  unfold stringEmptyProblems
  cases binding.spec.useStringEmpty <;> simp

theorem ignoreNullProblems_eq_nil :
    binding.ignoreNullProblems target = [] ↔
      (binding.spec.ignoreNull ≠ none ->
        binding.source.isNullable = true ∨ target.type.nullable = true) := by
  unfold ignoreNullProblems
  cases binding.spec.ignoreNull <;> cases binding.source.isNullable <;> simp

theorem sequenceProblems_eq_nil :
    binding.sequenceProblems target = [] ↔
      (binding.options.collectionHandling = .set ->
        binding.source.isSequence binding.options = true ->
          target.type.isCollection = true) := by
  unfold sequenceProblems
  cases target.type.isCollection <;> simp

theorem optionProblems_eq_nil : binding.optionProblems target = [] ↔ binding.Fits target := by
  simp only [optionProblems, List.append_eq_nil_iff, handlingProblems_eq_nil,
    ignoreEmptyProblems_eq_nil, stringEmptyProblems_eq_nil, ignoreNullProblems_eq_nil,
    sequenceProblems_eq_nil]
  constructor
  · rintro ⟨⟨⟨⟨handling, ignoreEmpty⟩, useStringEmpty⟩, ignoreNull⟩, sequence⟩
    exact ⟨handling, ignoreEmpty, useStringEmpty, ignoreNull, sequence⟩
  · intro h
    exact ⟨⟨⟨⟨h.handling, h.ignoreEmpty⟩, h.useStringEmpty⟩, h.ignoreNull⟩, h.sequence⟩

theorem propertyProblems_eq_nil :
    binding.propertyProblems = [] ↔ binding.SourceIsAdmissible := by
  unfold propertyProblems SourceIsAdmissible
  cases binding.source with
  | whole => simp
  | property name type => simp

theorem unknownMethod_not_mem_optionProblems {name : String} :
    .unknownMethod name ∉ binding.optionProblems target := by
  intro h
  simp only [optionProblems, List.mem_append] at h
  rcases h with (((h | h) | h) | h) | h
  · unfold handlingProblems at h
    split at h <;> simp at h
  · unfold ignoreEmptyProblems at h
    split at h <;> simp at h
  · unfold stringEmptyProblems at h
    split at h <;> simp at h
  · unfold ignoreNullProblems at h
    split at h <;> simp at h
  · unfold sequenceProblems at h
    split at h <;> simp at h

theorem unknownMethod_not_mem_problems {name : String} :
    .unknownMethod name ∉ binding.problems := by
  grind [problems, propertyProblems, targetProblems, unknownMethod_not_mem_optionProblems]

/-- A path that fails on account of the whole method is not reported on the binding. -/
def FailsWithMethod (binding : ResolvedBinding) : Prop :=
  binding.target = .error .targetTypeMissing ∨ binding.target = .error .prefixInvalid

theorem problems_eq_nil (hown : ¬ binding.FailsWithMethod) :
    binding.problems = [] ↔ binding.IsAdmissible := by
  unfold FailsWithMethod at hown
  have htarget : binding.targetProblems = [] ↔
      exists target, binding.target = .ok target ∧ binding.Fits target := by
    unfold targetProblems
    cases h : binding.target with
    | ok target => simp [optionProblems_eq_nil]
    | error problem => cases problem <;> simp_all
  rw [problems, List.append_eq_nil_iff, propertyProblems_eq_nil, htarget]
  exact ⟨fun h => ⟨h.1, h.2⟩, fun h => ⟨h.source, h.target⟩⟩

end ResolvedBinding

/-!
# The rules for a marker
-/

namespace MarkerSpec

structure Suits (source : TypeInfo) (table : TypeTable) (config : GeneratorConfig)
    (marker : MarkerSpec) (target : TypeInfo) : Prop where
  nested : forall nested, marker.nestedPath = some nested ->
    exists start, PathPrefix.ofNested table target nested = .ok start
  extensible : config.defaults.requiresExtensible marker = true -> target.extensible = true
  member : forall member, member ∈ target.members ->
    member.name ≠ config.markerMethod marker
  inherent : config.markerMethod marker ∉ target.methods
  own : config.defaults.requiresExtensible marker = false ->
    config.markerMethod marker ∉ source.methods

structure IsAdmissible (source : TypeInfo) (table : TypeTable) (config : GeneratorConfig)
    (marker : MarkerSpec) : Prop where
  name : Name.isEmittable (config.markerMethod marker) = true
  target : exists target, table.get? (simpleTypeName marker.targetType) = some target
    ∧ marker.Suits source table config target
  bindings : forall binding, binding ∈ (Resolution.method source table config marker).bindings ->
    binding.IsAdmissible

end MarkerSpec

/-!
# Problems of a method
-/

namespace ResolvedMethod

variable {source target : TypeInfo} {table : TypeTable} {method : ResolvedMethod}

theorem nameProblems_eq_nil :
    method.nameProblems = [] ↔ Name.isEmittable method.methodName = true := by
  simp [nameProblems]

theorem extensibleProblems_eq_nil :
    method.extensibleProblems target = [] ↔
      (method.requiresExtensibleTarget = true -> target.extensible = true) := by
  simp [extensibleProblems]

theorem ownerProblems_eq_nil :
    method.ownerProblems source target = [] ↔
      (forall member, member ∈ target.members -> member.name ≠ method.methodName)
        ∧ method.methodName ∉ target.methods
        ∧ (method.requiresExtensibleTarget = false -> method.methodName ∉ source.methods) := by
  have hnone : method.ownerProblems source target = [] ↔
      method.nameOwner? source target = none := by
    unfold ownerProblems
    cases method.nameOwner? source target <;> simp
  rw [hnone]
  have howner : method.nameOwner? source target = none ↔
      target.hasMemberNamed method.methodName = false
        ∧ (method.requiresExtensibleTarget = false -> method.methodName ∉ source.methods) := by
    unfold nameOwner?
    cases target.hasMemberNamed method.methodName <;> simp
  rw [howner]
  simp [TypeInfo.hasMemberNamed, and_assoc]

theorem unknownMethod_not_mem_problems {name : String} :
    .unknownMethod name ∉ method.problems source table := by
  grind [problems, nameProblems, prefixProblems, extensibleProblems, ownerProblems]

theorem problem_ne_unknownMethod {diagnostic : Diagnostic}
    (hmem : diagnostic ∈ method.diagnostics source table) (name : String) :
    diagnostic.problem ≠ .unknownMethod name := by
  intro h
  rcases List.mem_append.mp hmem with hown | hbindings
  · rcases List.mem_map.mp hown with ⟨problem, hproblem, rfl⟩
    cases (show problem = .unknownMethod name from h)
    exact unknownMethod_not_mem_problems hproblem
  · rcases List.mem_flatMap.mp hbindings with ⟨binding, _hbinding, hreported⟩
    rcases List.mem_map.mp hreported with ⟨problem, hproblem, rfl⟩
    cases (show problem = .unknownMethod name from h)
    exact ResolvedBinding.unknownMethod_not_mem_problems hproblem

theorem accepted_iff_no_problem :
    method.accepted source table = true ↔
      method.problems source table = []
        ∧ forall binding, binding ∈ method.bindings -> binding.problems = [] := by
  have herror : forall diagnostic, diagnostic ∈ method.diagnostics source table ->
      diagnostic.isError = true := by
    intro diagnostic hmem
    unfold Diagnostic.isError Diagnostic.severity Problem.severity
    split
    · rename_i name h
      exact absurd h (problem_ne_unknownMethod hmem name)
    · rfl
  have hempty : method.accepted source table = true ↔ method.diagnostics source table = [] := by
    cases h : method.diagnostics source table with
    | nil => simp [accepted, h]
    | cons first rest => simp [accepted, h, herror first (h ▸ List.mem_cons_self)]
  rw [hempty]
  simp [diagnostics, ResolvedBinding.diagnostics]

end ResolvedMethod

/-!
# Failing paths

A path that is walked from a known type fails on its own account: it names a missing property
or an invalid step, and it never says that the target type or the start is missing.
-/

namespace Walk

variable {table : TypeTable} {invalid problem : PathProblem}

theorem run_error {current : TypeInfo} {segments : List PathSegment}
    (h : run table invalid current segments = .error problem) :
    problem = invalid ∨ exists property target, problem = .propertyNotFound property target := by
  induction segments generalizing current with
  | nil =>
      cases h
      exact Or.inl rfl
  | cons segment rest ih =>
      unfold run at h
      split at h
      · split at h
        · cases h
          exact Or.inr ⟨_, _, rfl⟩
        · cases h
          exact Or.inl rfl
      · split at h
        · cases h
          exact Or.inl rfl
        · split at h
          · cases h
          · split at h
            · cases h
              exact Or.inl rfl
            · rename_i next _hnext
              cases hrest : run table invalid next rest with
              | ok found => simp [hrest, bind, Except.bind, pure, Except.pure] at h
              | error inner =>
                  have heq : inner = problem := by
                    simpa [hrest, bind, Except.bind] using h
                  exact ih (heq ▸ hrest)

end Walk

namespace PathPrefix

variable {table : TypeTable} {problem : PathProblem}

theorem ofNested_error {owner : TypeInfo} {nested : String}
    (h : ofNested table owner nested = .error problem) :
    problem = .invalidNested nested owner.name := by
  unfold ofNested at h
  grind

theorem target_error {start : PathPrefix} {written : String}
    (h : start.target table written = .error problem) :
    (exists path target, problem = .invalidNested path target)
      ∨ exists property target, problem = .propertyNotFound property target := by
  unfold target at h
  split at h
  · cases h
    exact Or.inr ⟨_, _, rfl⟩
  · rename_i path _hpath
    cases hwalk : Walk.path table start.owner written path with
    | ok found => simp [hwalk, bind, Except.bind, pure, Except.pure] at h
    | error inner =>
        have heq : inner = problem := by
          simpa [hwalk, bind, Except.bind] using h
        subst heq
        rcases Walk.run_error hwalk with hinvalid | hmissing
        · exact Or.inl ⟨_, _, hinvalid⟩
        · exact Or.inr hmissing

end PathPrefix

/-!
# Acceptance as the rules
-/

namespace Resolution

variable {source : TypeInfo} {table : TypeTable} {config : GeneratorConfig} {marker : MarkerSpec}

/-- With a target type and a valid start, every path of the method is judged by itself. -/
theorem not_failsWithMethod {start : PathPrefix}
    (hstart : PathPrefix.ofMarker table marker = .ok start) {binding : ResolvedBinding}
    (hmem : binding ∈ (method source table config marker).bindings) :
    ¬ binding.FailsWithMethod := by
  rcases List.mem_map.mp hmem with ⟨⟨slot, order⟩, _hplace, rfl⟩
  have htarget : (Resolution.binding source table config marker (slot, order)).target =
      slotTarget table (.ok start) slot := by
    rw [← hstart]
    rfl
  unfold ResolvedBinding.FailsWithMethod
  rw [htarget]
  simp only [slotTarget]
  cases (slot.spec.bind PropertySpec.targetName).or slot.member? with
  | none => simp
  | some written =>
      cases hresult : start.target table written with
      | ok target => simp [hresult]
      | error problem =>
          rcases PathPrefix.target_error hresult with ⟨_, _, rfl⟩ | ⟨_, _, rfl⟩ <;> simp [hresult]

section

variable {target : TypeInfo} (htarget : table.get? (simpleTypeName marker.targetType) = some target)

include htarget

theorem exists_ofMarker_eq_ok :
    (exists start, PathPrefix.ofMarker table marker = .ok start) ↔
      forall nested, marker.nestedPath = some nested ->
        exists start, PathPrefix.ofNested table target nested = .ok start := by
  unfold PathPrefix.ofMarker
  rw [htarget]
  cases marker.nestedPath <;> simp

theorem prefixProblems_eq_nil :
    (method source table config marker).prefixProblems = [] ↔
      exists start, PathPrefix.ofMarker table marker = .ok start := by
  have hstored : (method source table config marker).prefixProblem =
      prefixProblem? (PathPrefix.ofMarker table marker) := rfl
  unfold ResolvedMethod.prefixProblems
  rw [hstored]
  cases hstart : PathPrefix.ofMarker table marker with
  | ok start => simp [prefixProblem?]
  | error problem =>
      unfold PathPrefix.ofMarker at hstart
      rw [htarget] at hstart
      cases hnested : marker.nestedPath with
      | none => simp [hnested] at hstart
      | some nested =>
          rw [hnested] at hstart
          cases PathPrefix.ofNested_error hstart
          simp [prefixProblem?]

end

theorem problems_eq_nil :
    (method source table config marker).problems source table = [] ↔
      Name.isEmittable (config.markerMethod marker) = true
        ∧ exists target, table.get? (simpleTypeName marker.targetType) = some target
          ∧ marker.Suits source table config target := by
  unfold ResolvedMethod.problems
  rw [List.append_eq_nil_iff, ResolvedMethod.nameProblems_eq_nil]
  apply and_congr Iff.rfl
  cases htarget : table.get? (simpleTypeName marker.targetType) with
  | none =>
      simp [method, htarget]
  | some target =>
      have hfound : (table.get? (method source table config marker).targetType).filter
          (fun _ => (method source table config marker).targetFound) = some target := by
        simp [method, htarget]
      simp only [hfound, List.append_eq_nil_iff, prefixProblems_eq_nil htarget,
        exists_ofMarker_eq_ok htarget, ResolvedMethod.extensibleProblems_eq_nil,
        ResolvedMethod.ownerProblems_eq_nil]
      constructor
      · rintro ⟨⟨nested, extensible⟩, member, inherent, own⟩
        exact ⟨target, rfl, nested, extensible, member, inherent, own⟩
      · rintro ⟨found, hfound, suits⟩
        cases hfound
        exact ⟨⟨suits.nested, suits.extensible⟩, suits.member, suits.inherent, suits.own⟩

/-- A method is accepted if and only if its marker and its bindings keep every rule. -/
theorem accepted_iff_isAdmissible :
    (method source table config marker).accepted source table = true ↔
      marker.IsAdmissible source table config := by
  rw [ResolvedMethod.accepted_iff_no_problem, problems_eq_nil]
  have hbindings : forall {target : TypeInfo},
      table.get? (simpleTypeName marker.targetType) = some target ->
      marker.Suits source table config target ->
      forall binding, binding ∈ (method source table config marker).bindings ->
        (binding.problems = [] ↔ binding.IsAdmissible) := by
    intro target htarget hsuits binding hmem
    rcases (exists_ofMarker_eq_ok htarget).mpr hsuits.nested with ⟨start, hstart⟩
    exact ResolvedBinding.problems_eq_nil (not_failsWithMethod hstart hmem)
  constructor
  · rintro ⟨⟨hname, target, htarget, hsuits⟩, hproblems⟩
    exact ⟨hname, ⟨target, htarget, hsuits⟩, fun binding hmem =>
      (hbindings htarget hsuits binding hmem).mp (hproblems binding hmem)⟩
  · rintro ⟨hname, ⟨target, htarget, hsuits⟩, hadmissible⟩
    exact ⟨⟨hname, target, htarget, hsuits⟩, fun binding hmem =>
      (hbindings htarget hsuits binding hmem).mpr (hadmissible binding hmem)⟩

end Resolution

instance (source : TypeInfo) (table : TypeTable) (config : GeneratorConfig)
    (marker : MarkerSpec) : Decidable (marker.IsAdmissible source table config) :=
  decidable_of_iff _ Resolution.accepted_iff_isAdmissible

/-!
# What an accepted method is described by
-/

/-- The binding of a descriptor has all of the resolved one, and the field that its path
leads to. -/
structure PropertyBinding.Describes (binding : PropertyBinding) (resolved : ResolvedBinding) :
    Prop where
  order : binding.order = resolved.order
  source : binding.source = resolved.source
  target : resolved.target = .ok binding.target
  options : binding.options = resolved.options
  expression : binding.expression = resolved.spec.expression
  location : binding.location = resolved.location

structure UpdateMethod.Describes (source : TypeInfo) (table : TypeTable)
    (config : GeneratorConfig) (described : UpdateMethod) (marker : MarkerSpec) : Prop where
  key : described.key = (simpleTypeName marker.targetType, config.markerMethod marker, source.name)
  inherent : described.inherent = config.defaults.requiresExtensible marker
  location : described.location = (Location.source source.name).withMethod
    (simpleTypeName marker.targetType) (config.markerMethod marker)
  bindings : List.Forall₂ PropertyBinding.Describes described.bindings
    (Resolution.method source table config marker).bindings

namespace ResolvedBinding

theorem describes_of_toBinding? {resolved : ResolvedBinding} {binding : PropertyBinding}
    (h : resolved.toBinding? = some binding) : binding.Describes resolved := by
  unfold toBinding? at h
  split at h
  · cases h
  · rename_i target htarget
    cases h
    exact ⟨rfl, rfl, htarget, rfl, rfl, rfl⟩

theorem forall₂_describes (bindings : List ResolvedBinding)
    (h : forall binding, binding ∈ bindings -> exists target, binding.target = .ok target) :
    List.Forall₂ PropertyBinding.Describes (bindings.filterMap toBinding?) bindings := by
  have hdescribed : forall binding, binding ∈ bindings ->
      exists described, binding.toBinding? = some described := by
    intro binding hmem
    rcases h binding hmem with ⟨target, htarget⟩
    rw [toBinding?, htarget]
    exact ⟨_, rfl⟩
  exact ((forall₂_filterMap hdescribed).imp (fun _ _ => describes_of_toBinding?)).flip

end ResolvedBinding

namespace MarkerSpec.IsAdmissible

variable {source : TypeInfo} {table : TypeTable} {config : GeneratorConfig} {marker : MarkerSpec}

theorem describes (h : marker.IsAdmissible source table config) :
    (Resolution.method source table config marker).toUpdateMethod.Describes
      source table config marker where
  key := rfl
  inherent := rfl
  location := rfl
  bindings := by
    apply ResolvedBinding.forall₂_describes
    intro binding hmem
    rcases (h.bindings binding hmem).target with ⟨target, htarget, _hfits⟩
    exact ⟨target, htarget⟩

end MarkerSpec.IsAdmissible

namespace Validation

/-- The validation describes the methods of exactly the markers that keep every rule, in the
order of the markers, and whether a method is among them does not depend on the others. -/
theorem validate_describes_admissible (source : TypeInfo) (table : TypeTable)
    (config : GeneratorConfig) :
    List.Forall₂ (UpdateMethod.Describes source table config)
      (validate source (resolve source table config) table).methods
      (source.markers.filter (fun marker => marker.IsAdmissible source table config))
    ∧ forall resolution : Resolution,
        (validate source resolution table).methods = resolution.methods.flatMap
          (fun method => (validate source ⟨[method], resolution.unmatched⟩ table).methods) := by
  constructor
  · have hfilter :
        (validate source (resolve source table config) table).methods =
          (source.markers.filter (fun marker => marker.IsAdmissible source table config)).map
            (fun marker =>
              (Resolution.method source table config marker).toUpdateMethod) := by
      have haccepted : forall marker : MarkerSpec,
          (Resolution.method source table config marker).accepted source table =
            decide (marker.IsAdmissible source table config) := by
        intro marker
        rw [Bool.eq_iff_iff, decide_eq_true_eq]
        exact Resolution.accepted_iff_isAdmissible
      simp only [validate, resolve, List.filter_map, List.map_map]
      congr 2
      exact funext haccepted
    rw [hfilter, List.forall₂_map_left_iff, List.forall₂_same]
    intro marker hmem
    have hadmissible : marker.IsAdmissible source table config := by
      simpa using List.of_mem_filter hmem
    exact hadmissible.describes
  · intro resolution
    simp only [validate]
    induction resolution.methods with
    | nil => rfl
    | cons first rest ih =>
        rw [List.flatMap_cons, ← ih, ← List.map_append, ← List.filter_append,
          List.singleton_append]

end Validation
end PartialUpdate
