import PartialUpdate.Proofs.Acceptance

/-!
# The problems of a method

What can be wrong with a marker and with a binding, stated by what each problem is about, and the
checks of the validation proved to report exactly that, in a fixed order of the codes and each of
them at most once.
-/

namespace PartialUpdate

/-- The problems of a kind in the order of some codes, of which each stands for at most one. -/
structure Problem.Reports (codes : List String) (kind : Problem -> Prop) (problems : List Problem) :
    Prop where
  inOrder : (problems.map Problem.code).Sublist codes
  each : forall problem, problem ∈ problems ↔ kind problem

/-!
# Problems of a binding
-/

inductive PathProblem.Matches : PathProblem -> Problem -> Prop
  | targetName : Matches .targetNameMissing .targetPropertyNameMissing
  | property (property target : String) :
      Matches (.propertyNotFound property target) (.propertyNotFound property target)
  | nested (path target : String) :
      Matches (.invalidNested path target) (.invalidNestedProperty path target)

theorem PathProblem.Matches.unique {why : PathProblem} {problem other : Problem}
    (h : why.Matches problem) (h' : why.Matches other) : problem = other := by
  cases h <;> cases h' <;> rfl

namespace ResolvedBinding

def codes : List String :=
  ["UPD016", "UPD010", "UPD008", "UPD011", "UPD013", "UPD001", "UPD004", "UPD002", "UPD005",
    "UPD007", "UPD009"]

/-- The rules about the options that a binding breaks on the field that it writes. -/
inductive Breaks (binding : ResolvedBinding) (target : ResolvedTarget) : Problem -> Prop
  | handling (hhandling : binding.options.collectionHandling ≠ .set)
      (htype : target.type.isCollection = false) :
      Breaks binding target
        (.collectionHandlingNotApplicable target.path binding.options.collectionHandling)
  | mapHandling (hhandling : binding.options.collectionHandling ≠ .set)
      (htype : target.type.isMap = true) :
      Breaks binding target
        (.collectionHandlingNotSupported target.path binding.options.collectionHandling
          "map-valued fields are stored as sub-documents, not arrays")
  | ignoreEmpty (hoption : binding.spec.ignoreEmpty ≠ none)
      (hcollection : target.type.isCollection = false) (htext : target.type.isText = false) :
      Breaks binding target (.ignoreEmptyNotApplicable target.path)
  | useStringEmpty (hoption : binding.spec.useStringEmpty ≠ none)
      (htext : target.type.isText = false) :
      Breaks binding target (.useStringEmptyNotApplicable target.path)
  | ignoreNull (hoption : binding.spec.ignoreNull ≠ none)
      (hsource : binding.source.isNullable = false) (htarget : target.type.nullable = false) :
      Breaks binding target (.ignoreNullNotApplicable target.path)
  | sequence (hhandling : binding.options.collectionHandling = .set)
      (hsource : binding.source.isSequence binding.options = true)
      (htype : target.type.isCollection = false) :
      Breaks binding target
        (.propertyNotEnumerable target.path (binding.location.targetType.getD ""))

/-- What is wrong with a binding: its source, its path, or an option on the field written. -/
inductive HasProblem (binding : ResolvedBinding) : Problem -> Prop
  | name {name : String} {type : TypeRef} (hsource : binding.source = .property name type)
      (hname : Name.isEmittable name = false) :
      HasProblem binding (.invalidIdentifier name)
  | sourceArray {name : String} {type : TypeRef} (hsource : binding.source = .property name type)
      (hoption : binding.spec.isSourceArray = some true) :
      HasProblem binding .isSourceArrayNotApplicable
  | path {why : PathProblem} {problem : Problem} (htarget : binding.target = .error why)
      (hmatches : why.Matches problem) : HasProblem binding problem
  | option {target : ResolvedTarget} {problem : Problem} (htarget : binding.target = .ok target)
      (hbreaks : binding.Breaks target problem) : HasProblem binding problem

variable {binding : ResolvedBinding} {target : ResolvedTarget} {problem : Problem}

/-!
Each check reports what its rule is about, and no two problems of one code.
-/

theorem mem_propertyProblems_iff :
    problem ∈ binding.propertyProblems ↔ exists name type, binding.source = .property name type
      ∧ (Name.isEmittable name = false ∧ problem = .invalidIdentifier name
        ∨ binding.spec.isSourceArray = some true ∧ problem = .isSourceArrayNotApplicable) := by
  unfold propertyProblems
  cases binding.source with
  | whole => simp
  | property name type => simp

theorem mem_handlingProblems_iff :
    problem ∈ binding.handlingProblems target ↔ binding.options.collectionHandling ≠ .set
      ∧ (target.type.isCollection = false
          ∧ problem = .collectionHandlingNotApplicable target.path
              binding.options.collectionHandling
        ∨ target.type.isMap = true
          ∧ problem = .collectionHandlingNotSupported target.path
              binding.options.collectionHandling
              "map-valued fields are stored as sub-documents, not arrays") := by
  unfold handlingProblems TypeRef.isCollection TypeRef.isSequence TypeRef.isMap
  cases target.type.kind <;> simp

theorem mem_ignoreEmptyProblems_iff :
    problem ∈ binding.ignoreEmptyProblems target ↔ binding.spec.ignoreEmpty ≠ none
      ∧ target.type.isCollection = false ∧ target.type.isText = false
      ∧ problem = .ignoreEmptyNotApplicable target.path := by
  simp [ignoreEmptyProblems, Option.isSome_iff_ne_none, and_assoc]

theorem mem_stringEmptyProblems_iff :
    problem ∈ binding.stringEmptyProblems target ↔ binding.spec.useStringEmpty ≠ none
      ∧ target.type.isText = false ∧ problem = .useStringEmptyNotApplicable target.path := by
  simp [stringEmptyProblems, Option.isSome_iff_ne_none, and_assoc]

theorem mem_ignoreNullProblems_iff :
    problem ∈ binding.ignoreNullProblems target ↔ binding.spec.ignoreNull ≠ none
      ∧ binding.source.isNullable = false ∧ target.type.nullable = false
      ∧ problem = .ignoreNullNotApplicable target.path := by
  simp [ignoreNullProblems, Option.isSome_iff_ne_none, and_assoc]

theorem mem_sequenceProblems_iff :
    problem ∈ binding.sequenceProblems target ↔ binding.options.collectionHandling = .set
      ∧ binding.source.isSequence binding.options = true ∧ target.type.isCollection = false
      ∧ problem =
          .propertyNotEnumerable target.path (binding.location.targetType.getD "") := by
  simp [sequenceProblems, and_assoc]

theorem mem_optionProblems_iff :
    problem ∈ binding.optionProblems target ↔ binding.Breaks target problem := by
  simp only [optionProblems, List.mem_append, mem_handlingProblems_iff,
    mem_ignoreEmptyProblems_iff, mem_stringEmptyProblems_iff, mem_ignoreNullProblems_iff,
    mem_sequenceProblems_iff]
  constructor
  · intro h
    rcases h with (((⟨hhandling, ⟨htype, rfl⟩ | ⟨htype, rfl⟩⟩ | ⟨hoption, hcollection, htext, rfl⟩)
      | ⟨hoption, htext, rfl⟩) | ⟨hoption, hsource, htarget, rfl⟩)
      | ⟨hhandling, hsource, htype, rfl⟩
    · exact .handling hhandling htype
    · exact .mapHandling hhandling htype
    · exact .ignoreEmpty hoption hcollection htext
    · exact .useStringEmpty hoption htext
    · exact .ignoreNull hoption hsource htarget
    · exact .sequence hhandling hsource htype
  · intro h
    cases h with
    | handling hhandling htype =>
        exact .inl (.inl (.inl (.inl ⟨hhandling, .inl ⟨htype, rfl⟩⟩)))
    | mapHandling hhandling htype =>
        exact .inl (.inl (.inl (.inl ⟨hhandling, .inr ⟨htype, rfl⟩⟩)))
    | ignoreEmpty hoption hcollection htext =>
        exact .inl (.inl (.inl (.inr ⟨hoption, hcollection, htext, rfl⟩)))
    | useStringEmpty hoption htext => exact .inl (.inl (.inr ⟨hoption, htext, rfl⟩))
    | ignoreNull hoption hsource htarget => exact .inl (.inr ⟨hoption, hsource, htarget, rfl⟩)
    | sequence hhandling hsource htype => exact .inr ⟨hhandling, hsource, htype, rfl⟩

theorem not_failsWithMethod_of_matches {why : PathProblem} (htarget : binding.target = .error why)
    (hmatches : why.Matches problem) : ¬ binding.FailsWithMethod := by
  unfold FailsWithMethod
  rw [htarget]
  cases hmatches <;> simp

theorem targetProblems_of_ok (htarget : binding.target = .ok target) :
    binding.targetProblems = binding.optionProblems target := by
  rw [targetProblems, htarget]

theorem targetProblems_of_matches {why : PathProblem} (htarget : binding.target = .error why)
    (hmatches : why.Matches problem) : binding.targetProblems = [problem] := by
  rw [targetProblems, htarget]
  cases hmatches <;> rfl

theorem targetProblems_of_failsWithMethod (h : binding.FailsWithMethod) :
    binding.targetProblems = [] := by
  rcases h with h | h
  · rw [targetProblems, h]
  · rw [targetProblems, h]

/-- A path leads to a field, fails on its own account, or fails with the method. -/
theorem target_cases (binding : ResolvedBinding) :
    (exists target, binding.target = .ok target)
      ∨ (exists why problem, binding.target = .error why ∧ why.Matches problem)
      ∨ binding.FailsWithMethod := by
  cases htarget : binding.target with
  | ok target => exact .inl ⟨target, rfl⟩
  | error why =>
      cases why with
      | targetNameMissing => exact .inr (.inl ⟨_, _, rfl, .targetName⟩)
      | propertyNotFound property target => exact .inr (.inl ⟨_, _, rfl, .property property target⟩)
      | invalidNested path target => exact .inr (.inl ⟨_, _, rfl, .nested path target⟩)
      | targetTypeMissing => exact .inr (.inr (.inl htarget))
      | prefixInvalid => exact .inr (.inr (.inr htarget))

/-!
The checks come in the order of their codes.
-/

theorem codes_propertyProblems (binding : ResolvedBinding) :
    (binding.propertyProblems.map Problem.code).Sublist ["UPD016", "UPD010"] := by
  unfold propertyProblems
  cases binding.source with
  | whole => exact List.nil_sublist _
  | property name type =>
      rw [List.map_append]
      show List.Sublist _ (["UPD016"] ++ ["UPD010"])
      apply List.Sublist.append
      · split <;> simp [Problem.code]
      · split <;> simp [Problem.code]

def optionCodes : List String :=
  ["UPD001", "UPD004"] ++ ["UPD002"] ++ ["UPD005"] ++ ["UPD007"] ++ ["UPD009"]

theorem codes_optionProblems (binding : ResolvedBinding) (target : ResolvedTarget) :
    ((binding.optionProblems target).map Problem.code).Sublist optionCodes := by
  have hhandling : ((binding.handlingProblems target).map Problem.code).Sublist
      ["UPD001", "UPD004"] := by
    unfold handlingProblems
    dsimp only
    split_ifs <;> simp [Problem.code]
  have hempty : ((binding.ignoreEmptyProblems target).map Problem.code).Sublist ["UPD002"] := by
    unfold ignoreEmptyProblems
    split <;> simp [Problem.code]
  have htext : ((binding.stringEmptyProblems target).map Problem.code).Sublist ["UPD005"] := by
    unfold stringEmptyProblems
    split <;> simp [Problem.code]
  have hnull : ((binding.ignoreNullProblems target).map Problem.code).Sublist ["UPD007"] := by
    unfold ignoreNullProblems
    split <;> simp [Problem.code]
  have hsequence : ((binding.sequenceProblems target).map Problem.code).Sublist ["UPD009"] := by
    unfold sequenceProblems
    split <;> simp [Problem.code]
  simp only [optionProblems, List.map_append]
  exact (((hhandling.append hempty).append htext).append hnull).append hsequence

theorem code_of_matches {why : PathProblem} (hmatches : why.Matches problem) :
    problem.code ∈ ["UPD008", "UPD011", "UPD013"] := by
  cases hmatches <;> simp [Problem.code]

theorem codes_targetProblems (binding : ResolvedBinding) :
    (binding.targetProblems.map Problem.code).Sublist
      (["UPD008", "UPD011", "UPD013"] ++ optionCodes) := by
  rcases binding.target_cases with ⟨target, htarget⟩ | ⟨why, problem, htarget, hmatches⟩ | hfails
  · rw [targetProblems_of_ok htarget]
    exact (codes_optionProblems binding target).trans (List.sublist_append_right _ _)
  · rw [targetProblems_of_matches htarget hmatches]
    exact List.singleton_sublist.mpr (List.mem_append_left _ (code_of_matches hmatches))
  · rw [targetProblems_of_failsWithMethod hfails]
    exact List.nil_sublist _

theorem mem_targetProblems_iff :
    problem ∈ binding.targetProblems ↔
      (exists why, binding.target = .error why ∧ why.Matches problem)
        ∨ exists target, binding.target = .ok target ∧ binding.Breaks target problem := by
  rcases binding.target_cases with ⟨target, htarget⟩ | ⟨why, found, htarget, hmatches⟩ | hfails
  · rw [targetProblems_of_ok htarget, mem_optionProblems_iff, htarget]
    simp
  · rw [targetProblems_of_matches htarget hmatches, List.mem_singleton]
    constructor
    · rintro rfl
      exact .inl ⟨why, htarget, hmatches⟩
    · rintro (⟨other, hother, hproblem⟩ | ⟨target, hfound, _hbreaks⟩)
      · rw [htarget] at hother
        cases hother
        exact hproblem.unique hmatches
      · rw [htarget] at hfound
        cases hfound
  · rw [targetProblems_of_failsWithMethod hfails]
    constructor
    · intro h
      cases h
    · rintro (⟨why, htarget, hmatches⟩ | ⟨target, htarget, _hbreaks⟩)
      · exact absurd hfails (not_failsWithMethod_of_matches htarget hmatches)
      · unfold FailsWithMethod at hfails
        rw [htarget] at hfails
        simp at hfails

theorem reports_problems (binding : ResolvedBinding) :
    Problem.Reports codes binding.HasProblem binding.problems where
  inOrder := by
    rw [problems, List.map_append]
    exact binding.codes_propertyProblems.append binding.codes_targetProblems
  each := by
    intro problem
    rw [problems, List.mem_append, mem_propertyProblems_iff, mem_targetProblems_iff]
    constructor
    · rintro (⟨name, type, hsource, ⟨hname, rfl⟩ | ⟨hoption, rfl⟩⟩
        | ⟨why, htarget, hmatches⟩ | ⟨target, htarget, hbreaks⟩)
      · exact .name hsource hname
      · exact .sourceArray hsource hoption
      · exact .path htarget hmatches
      · exact .option htarget hbreaks
    · intro h
      cases h with
      | name hsource hname => exact .inl ⟨_, _, hsource, .inl ⟨hname, rfl⟩⟩
      | sourceArray hsource hoption => exact .inl ⟨_, _, hsource, .inr ⟨hoption, rfl⟩⟩
      | path htarget hmatches => exact .inr (.inl ⟨_, htarget, hmatches⟩)
      | option htarget hbreaks => exact .inr (.inr ⟨_, htarget, hbreaks⟩)

end ResolvedBinding

/-!
# Problems of a marker
-/

namespace MarkerSpec

def codes : List String := ["UPD016", "UPD012", "UPD013", "UPD006", "UPD003"]

variable {source : TypeInfo} {table : TypeTable} {config : GeneratorConfig} {marker : MarkerSpec}

def LacksTarget (table : TypeTable) (marker : MarkerSpec) : Prop :=
  table.get? (simpleTypeName marker.targetType) = none

def HasBadPrefix (table : TypeTable) (marker : MarkerSpec) (target : TypeInfo) (nested : String) :
    Prop :=
  table.get? (simpleTypeName marker.targetType) = some target
    ∧ marker.nestedPath = some nested
    ∧ ¬ exists start, PathPrefix.ofNested table target nested = .ok start

/-- What is wrong with a marker.  Without a target type nothing is said about the members of
that type. -/
inductive HasProblem (source : TypeInfo) (table : TypeTable) (config : GeneratorConfig)
    (marker : MarkerSpec) : Problem -> Prop
  | name (hname : Name.isEmittable (config.markerMethod marker) = false) :
      HasProblem source table config marker (.invalidIdentifier (config.markerMethod marker))
  | target (htarget : marker.LacksTarget table) :
      HasProblem source table config marker
        (.targetTypeNotFound (simpleTypeName marker.targetType))
  | nested {target : TypeInfo} {nested : String}
      (hfaulty : marker.HasBadPrefix table target nested) :
      HasProblem source table config marker (.invalidNestedProperty nested target.name)
  | extensible {target : TypeInfo}
      (htarget : table.get? (simpleTypeName marker.targetType) = some target)
      (hmode : config.defaults.requiresExtensible marker = true)
      (hextensible : target.extensible = false) :
      HasProblem source table config marker
        (.extensibleTargetMissing target.name (config.markerMethod marker))
  | member {target : TypeInfo}
      (htarget : table.get? (simpleTypeName marker.targetType) = some target)
      (hmember : target.hasMemberNamed (config.markerMethod marker) = true) :
      HasProblem source table config marker
        (.methodNameAlreadyExists (config.markerMethod marker) target.name)
  | own {target : TypeInfo}
      (htarget : table.get? (simpleTypeName marker.targetType) = some target)
      (hmember : target.hasMemberNamed (config.markerMethod marker) = false)
      (hmode : config.defaults.requiresExtensible marker = false)
      (hown : config.markerMethod marker ∈ source.methods) :
      HasProblem source table config marker
        (.methodNameAlreadyExists (config.markerMethod marker) source.name)

end MarkerSpec

namespace Resolution

open MarkerSpec (LacksTarget HasBadPrefix)

variable {source target : TypeInfo} {table : TypeTable} {config : GeneratorConfig}
  {marker : MarkerSpec} {problem : Problem}

theorem problems_of_lacksTarget (htarget : marker.LacksTarget table) :
    (method source table config marker).problems source table =
      (method source table config marker).nameProblems
        ++ [.targetTypeNotFound (simpleTypeName marker.targetType)] := by
  unfold LacksTarget at htarget
  simp [ResolvedMethod.problems, method, htarget]

theorem problems_of_target
    (htarget : table.get? (simpleTypeName marker.targetType) = some target) :
    (method source table config marker).problems source table =
      (method source table config marker).nameProblems
        ++ ((method source table config marker).prefixProblems
          ++ (method source table config marker).extensibleProblems target
          ++ (method source table config marker).ownerProblems source target) := by
  have hfound : (table.get? (method source table config marker).targetType).filter
      (fun _ => (method source table config marker).targetFound) = some target := by
    simp [method, htarget]
  simp only [ResolvedMethod.problems, hfound]

theorem ofMarker_of_hasBadPrefix {nested : String}
    (hfaulty : marker.HasBadPrefix table target nested) :
    PathPrefix.ofMarker table marker = .error (.invalidNested nested target.name) := by
  rcases hfaulty with ⟨htarget, hnested, hbad⟩
  rw [PathPrefix.ofMarker, htarget, hnested]
  cases hstart : PathPrefix.ofNested table target nested with
  | ok start => exact absurd ⟨start, hstart⟩ hbad
  | error problem =>
      cases PathPrefix.ofNested_error hstart
      exact hstart

theorem exists_start (htarget : table.get? (simpleTypeName marker.targetType) = some target)
    (hsound : ¬ exists nested, marker.HasBadPrefix table target nested) :
    exists start, PathPrefix.ofMarker table marker = .ok start := by
  apply (exists_ofMarker_eq_ok htarget).mpr
  intro nested hnested
  by_contra hbad
  exact hsound ⟨nested, htarget, hnested, hbad⟩

theorem prefixProblems_of_hasBadPrefix {nested : String}
    (hfaulty : marker.HasBadPrefix table target nested) :
    (method source table config marker).prefixProblems =
      [.invalidNestedProperty nested target.name] := by
  have hproblem : (method source table config marker).prefixProblem =
      some (.invalidNested nested target.name) :=
    congrArg prefixProblem? (ofMarker_of_hasBadPrefix hfaulty)
  rw [ResolvedMethod.prefixProblems, hproblem]

theorem mem_prefixProblems_iff
    (htarget : table.get? (simpleTypeName marker.targetType) = some target) :
    problem ∈ (method source table config marker).prefixProblems ↔
      exists nested, marker.HasBadPrefix table target nested
        ∧ problem = .invalidNestedProperty nested target.name := by
  by_cases hfaulty : exists nested, marker.HasBadPrefix table target nested
  · rcases hfaulty with ⟨nested, hbad⟩
    rw [prefixProblems_of_hasBadPrefix hbad, List.mem_singleton]
    constructor
    · rintro rfl
      exact ⟨nested, hbad, rfl⟩
    · rintro ⟨other, hother, rfl⟩
      cases hother.2.1.symm.trans hbad.2.1
      rfl
  · rw [(prefixProblems_eq_nil htarget).mpr (exists_start htarget hfaulty)]
    constructor
    · intro h
      cases h
    · rintro ⟨nested, hbad, _hproblem⟩
      exact absurd ⟨nested, hbad⟩ hfaulty

end Resolution

namespace ResolvedMethod

variable {source target : TypeInfo} {method : ResolvedMethod} {problem : Problem}

theorem mem_nameProblems_iff :
    problem ∈ method.nameProblems ↔ Name.isEmittable method.methodName = false
      ∧ problem = .invalidIdentifier method.methodName := by
  simp [nameProblems]

theorem mem_extensibleProblems_iff :
    problem ∈ method.extensibleProblems target ↔ method.requiresExtensibleTarget = true
      ∧ target.extensible = false
      ∧ problem = .extensibleTargetMissing target.name method.methodName := by
  simp [extensibleProblems, and_assoc]

theorem mem_ownerProblems_iff :
    problem ∈ method.ownerProblems source target ↔
      target.hasMemberNamed method.methodName = true
          ∧ problem = .methodNameAlreadyExists method.methodName target.name
        ∨ target.hasMemberNamed method.methodName = false
          ∧ method.requiresExtensibleTarget = false ∧ method.methodName ∈ source.methods
          ∧ problem = .methodNameAlreadyExists method.methodName source.name := by
  unfold ownerProblems nameOwner?
  cases target.hasMemberNamed method.methodName with
  | true => simp
  | false =>
      by_cases hown : method.requiresExtensibleTarget = false
          ∧ method.methodName ∈ source.methods
      · simp [hown]
      · rw [not_and] at hown
        cases hmode : method.requiresExtensibleTarget with
        | true => simp
        | false => simp [hown hmode]

theorem codes_nameProblems (method : ResolvedMethod) :
    (method.nameProblems.map Problem.code).Sublist ["UPD016"] := by
  unfold nameProblems
  split <;> simp [Problem.code]

theorem codes_prefixProblems (method : ResolvedMethod) :
    (method.prefixProblems.map Problem.code).Sublist ["UPD013"] := by
  unfold prefixProblems
  split <;> simp [Problem.code]

theorem codes_extensibleProblems (target : TypeInfo) (method : ResolvedMethod) :
    ((method.extensibleProblems target).map Problem.code).Sublist ["UPD006"] := by
  unfold extensibleProblems
  split <;> simp [Problem.code]

theorem codes_ownerProblems (source target : TypeInfo) (method : ResolvedMethod) :
    ((method.ownerProblems source target).map Problem.code).Sublist ["UPD003"] := by
  unfold ownerProblems
  split <;> simp [Problem.code]

end ResolvedMethod

namespace Resolution

variable {source target : TypeInfo} {table : TypeTable} {config : GeneratorConfig}
  {marker : MarkerSpec} {problem : Problem}

theorem codes_problems (source : TypeInfo) (table : TypeTable) (config : GeneratorConfig)
    (marker : MarkerSpec) :
    (((method source table config marker).problems source table).map Problem.code).Sublist
      MarkerSpec.codes := by
  have hname := (method source table config marker).codes_nameProblems
  cases htarget : table.get? (simpleTypeName marker.targetType) with
  | none =>
      rw [problems_of_lacksTarget htarget, List.map_append]
      exact hname.append (by simp [Problem.code])
  | some target =>
      rw [problems_of_target htarget, List.map_append, List.map_append, List.map_append]
      have hprefixes := (method source table config marker).codes_prefixProblems
      have hextensible := (method source table config marker).codes_extensibleProblems target
      have howner := (method source table config marker).codes_ownerProblems source target
      have hmembers := (hprefixes.append hextensible).append howner
      exact hname.append (hmembers.trans (List.sublist_cons_self "UPD012" _))

theorem reports_problems (source : TypeInfo) (table : TypeTable) (config : GeneratorConfig)
    (marker : MarkerSpec) :
    Problem.Reports MarkerSpec.codes (marker.HasProblem source table config)
      ((method source table config marker).problems source table) where
  inOrder := codes_problems source table config marker
  each := by
    intro problem
    cases htarget : table.get? (simpleTypeName marker.targetType) with
    | none =>
        rw [problems_of_lacksTarget htarget, List.mem_append, ResolvedMethod.mem_nameProblems_iff,
          List.mem_singleton]
        constructor
        · rintro (⟨hname, rfl⟩ | rfl)
          · exact .name hname
          · exact .target htarget
        · intro h
          cases h with
          | name hname => exact .inl ⟨hname, rfl⟩
          | target _ => exact .inr rfl
          | nested hfaulty => cases htarget.symm.trans hfaulty.1
          | extensible hfound | member hfound | own hfound => cases htarget.symm.trans hfound
    | some target =>
        rw [problems_of_target htarget, List.mem_append, List.mem_append, List.mem_append,
          ResolvedMethod.mem_nameProblems_iff, mem_prefixProblems_iff htarget,
          ResolvedMethod.mem_extensibleProblems_iff, ResolvedMethod.mem_ownerProblems_iff]
        constructor
        · rintro (⟨hname, rfl⟩ | (⟨nested, hbad, rfl⟩ | ⟨hmode, hextensible, rfl⟩)
            | ⟨hmember, rfl⟩ | ⟨hmember, hmode, hown, rfl⟩)
          · exact .name hname
          · exact .nested hbad
          · exact .extensible htarget hmode hextensible
          · exact .member htarget hmember
          · exact .own htarget hmember hmode hown
        · intro h
          cases h with
          | name hname => exact .inl ⟨hname, rfl⟩
          | target hnone => cases htarget.symm.trans hnone
          | nested hfaulty =>
              cases htarget.symm.trans hfaulty.1
              exact .inr (.inl (.inl ⟨_, hfaulty, rfl⟩))
          | extensible hfound hmode hextensible =>
              cases htarget.symm.trans hfound
              exact .inr (.inl (.inr ⟨hmode, hextensible, rfl⟩))
          | member hfound hmember =>
              cases htarget.symm.trans hfound
              exact .inr (.inr (.inl ⟨hmember, rfl⟩))
          | own hfound hmember hmode hown =>
              cases htarget.symm.trans hfound
              exact .inr (.inr (.inr ⟨hmember, hmode, hown, rfl⟩))

end Resolution
end PartialUpdate
