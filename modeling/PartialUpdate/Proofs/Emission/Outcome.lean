import PartialUpdate.Emission
import PartialUpdate.Proofs.Aggregation
import PartialUpdate.Proofs.Except

/-!
# What an emission holds

A method is either written or reported, and what is written carries the names that were
declared.  A report points at its method, or at the source whose trait cannot be written.
-/

namespace PartialUpdate

namespace Emission

/-!
# Gathering
-/

def written? {α : Type} : Emitted α -> Option α
  | .ok value => some value
  | .error _ => none

def reported? {α : Type} : Emitted α -> Option Diagnostic
  | .error (.reported diagnostic) => some diagnostic
  | _ => none

theorem gather_eq_ok {α : Type} {outcomes : List (Emitted α)} {values : List α}
    {diagnostics : List Diagnostic} (h : gather outcomes = .ok (values, diagnostics)) :
    values = outcomes.filterMap written? ∧ diagnostics = outcomes.filterMap reported?
      ∧ forall name, Except.error (EmissionProblem.unwritable name) ∉ outcomes := by
  induction outcomes generalizing values diagnostics with
  | nil =>
      cases h
      exact ⟨rfl, rfl, fun _ => List.not_mem_nil⟩
  | cons outcome outcomes ih =>
      cases outcome with
      | ok value =>
          rcases bind_eq_ok h with ⟨⟨values', diagnostics'⟩, hrest, hdone⟩
          cases hdone
          rcases ih hrest with ⟨rfl, rfl, hnone⟩
          exact ⟨rfl, rfl, fun name => by simp [hnone name]⟩
      | error problem =>
          cases problem with
          | unwritable name => cases h
          | reported diagnostic =>
              rcases bind_eq_ok h with ⟨⟨values', diagnostics'⟩, hrest, hdone⟩
              cases hdone
              rcases ih hrest with ⟨rfl, rfl, hnone⟩
              exact ⟨rfl, rfl, fun name => by simp [hnone name]⟩

def ReportsAt {α : Type} (kind : Location -> Prop) (outcome : Emitted α) : Prop :=
  forall diagnostic, outcome = .error (.reported diagnostic) ->
    diagnostic.isError = true ∧ kind diagnostic.location

namespace ReportsAt

variable {α β : Type} {kind : Location -> Prop}

theorem ok (value : α) : ReportsAt kind (.ok value : Emitted α) := by
  intro diagnostic h
  cases h

theorem bind {first : Emitted α} {next : α -> Emitted β} (hfirst : ReportsAt kind first)
    (hnext : forall value, ReportsAt kind (next value)) : ReportsAt kind (first >>= next) := by
  cases first with
  | error problem =>
      intro diagnostic h
      cases h
      exact hfirst diagnostic rfl
  | ok value => exact hnext value

theorem mono {other : Location -> Prop} {outcome : Emitted α} (h : ReportsAt kind outcome)
    (himp : forall location, kind location -> other location) : ReportsAt other outcome :=
  fun diagnostic hreported =>
    ⟨(h diagnostic hreported).1, himp _ (h diagnostic hreported).2⟩

end ReportsAt

/-!
# Names
-/

theorem identifier_eq_ok {name : String} {location : Location} {written : Identifier}
    (h : identifier name location = .ok written) :
    Identifier.ofName name = .ok written := by
  unfold identifier at h
  split at h
  · rename_i heq
    cases h
    exact heq
  · cases h
  · cases h

theorem name_of_ofName {name : String} {written : Identifier}
    (h : Identifier.ofName name = .ok written) : written.name = name := by
  unfold Identifier.ofName at h
  split at h
  · split at h
    · cases h
      rfl
    · cases h
  · split at h
    · cases h
      rfl
    · cases h

theorem identifier_name {name : String} {location : Location} {written : Identifier}
    (h : identifier name location = .ok written) : written.name = name :=
  name_of_ofName (identifier_eq_ok h)

theorem identifier_reportsAt (name : String) (location : Location) :
    ReportsAt (fun place => place = location) (identifier name location) := by
  intro diagnostic h
  unfold identifier at h
  split at h
  · cases h
  · cases h
    exact ⟨rfl, rfl⟩
  · cases h

/-- A name that passes for an identifier is written, unless that stops all; any other name is
reported. -/
theorem identifier_outcome (name : String) (location : Location) :
    (Name.isEmittable name = true ∧ exists written, identifier name location = .ok written)
      ∨ (Name.isEmittable name = false
          ∧ identifier name location = .error (.reported ⟨.invalidIdentifier name, location⟩))
      ∨ identifier name location = .error (.unwritable name) := by
  unfold identifier Identifier.ofName
  by_cases hidentifier : Name.isIdentifier name = true
  · by_cases hlexical : Name.isLexical name = true
    · simp [hidentifier, hlexical, Name.isEmittable]
    · simp [hidentifier, hlexical]
  · by_cases hemittable : Name.isEmittable name = true
    · simp [hidentifier, hemittable]
    · simp [hidentifier, hemittable]

/-!
# Methods
-/

theorem expression?_reportsAt (binding : PropertyBinding) :
    ReportsAt (fun place => place = binding.location) (expression? binding) := by
  intro diagnostic h
  unfold expression? at h
  split at h
  · cases h
  · split at h
    · cases h
    · cases h
      exact ⟨rfl, rfl⟩

theorem subject_reportsAt (binding : PropertyBinding) :
    ReportsAt (fun place => place = binding.location) (subject binding) := by
  unfold subject
  split
  · exact ReportsAt.ok _
  · exact (identifier_reportsAt _ _).bind (fun _ => ReportsAt.ok _)

theorem call_reportsAt (binding : PropertyBinding) :
    ReportsAt (fun place => place = binding.location) (call binding) := by
  unfold call
  apply (expression?_reportsAt binding).bind
  intro expression
  exact (subject_reportsAt binding).bind (fun _ => ReportsAt.ok _)

def IsLocationOf (declared : UpdateMethod) (location : Location) : Prop :=
  location = declared.location
    ∨ exists binding, binding ∈ declared.bindings ∧ location = binding.location

theorem pointsAt_of_isLocationOf {declared : UpdateMethod} (h : declared.IsPlaced)
    {location : Location} (hlocation : IsLocationOf declared location) :
    location.PointsAt declared.key := by
  rcases hlocation with rfl | ⟨binding, hbinding, rfl⟩
  · exact h.location
  · exact h.bindings binding hbinding

theorem calls_reportsAt (declared : UpdateMethod) :
    ReportsAt (IsLocationOf declared) (declared.bindings.mapM call) := by
  intro diagnostic h
  rcases mapM_eq_error_iff.mp h with ⟨before, binding, after, hbindings, _hbefore, hcall⟩
  have hbinding : binding ∈ declared.bindings := by
    rw [hbindings]
    exact List.mem_append_right _ List.mem_cons_self
  have hreport := call_reportsAt binding diagnostic hcall
  exact ⟨hreport.1, Or.inr ⟨binding, hbinding, hreport.2⟩⟩

def parameterType (declared : UpdateMethod) : Emitted (Option Identifier) :=
  if declared.inherent then some <$> identifier declared.sourceType declared.location
  else .ok none

theorem method_eq (declared : UpdateMethod) :
    method declared =
      identifier declared.methodName declared.location >>= fun name =>
        identifier declared.targetType declared.location >>= fun target =>
          parameterType declared >>= fun source =>
            declared.bindings.mapM call >>= fun calls =>
              .ok ⟨declared, name, target, source, calls⟩ := by
  unfold method parameterType
  cases declared.inherent with
  | true => rfl
  | false => rfl

theorem method_reportsAt (declared : UpdateMethod) :
    ReportsAt (IsLocationOf declared) (method declared) := by
  have hidentifier (name : String) :
      ReportsAt (IsLocationOf declared) (identifier name declared.location) :=
    (identifier_reportsAt name declared.location).mono (fun _ h => Or.inl h)
  have hparameter : ReportsAt (IsLocationOf declared) (parameterType declared) := by
    unfold parameterType
    split
    · exact (hidentifier _).bind (fun _ => ReportsAt.ok _)
    · exact ReportsAt.ok _
  rw [method_eq]
  apply (hidentifier _).bind
  intro name
  apply (hidentifier _).bind
  intro target
  apply hparameter.bind
  intro source
  exact (calls_reportsAt declared).bind (fun _ => ReportsAt.ok _)

/-- What is written carries the names and the calls that were declared. -/
structure Writes (declared : UpdateMethod) (written : GeneratedMethod) : Prop where
  origin : written.declared = declared
  name : Identifier.ofName declared.methodName = .ok written.name
  target : Identifier.ofName declared.targetType = .ok written.target
  source : declared.inherent = true ->
    exists source, written.source = some source
      ∧ Identifier.ofName declared.sourceType = .ok source
  own : declared.inherent = false -> written.source = none
  calls : List.Forall₂ (fun binding generated => call binding = .ok generated)
    declared.bindings written.calls

theorem writes_of_method_eq_ok {declared : UpdateMethod} {written : GeneratedMethod}
    (h : method declared = .ok written) : Writes declared written := by
  rw [method_eq] at h
  rcases bind_eq_ok h with ⟨name, hname, hrest⟩
  rcases bind_eq_ok hrest with ⟨target, htarget, hrest⟩
  rcases bind_eq_ok hrest with ⟨source, hsource, hrest⟩
  rcases bind_eq_ok hrest with ⟨calls, hcalls, hdone⟩
  cases hdone
  refine ⟨rfl, identifier_eq_ok hname, identifier_eq_ok htarget, ?_, ?_,
    mapM_eq_ok_iff.mp hcalls⟩
  · intro hinherent
    rw [parameterType, if_pos hinherent] at hsource
    rcases bind_eq_ok hsource with ⟨written, hwritten, hdone⟩
    cases hdone
    exact ⟨written, rfl, identifier_eq_ok hwritten⟩
  · intro hown
    rw [parameterType, if_neg (by simp [hown])] at hsource
    cases hsource
    rfl

/-!
# Traits
-/

theorem extensionTrait_eq (config : GeneratorConfig) (members : List GeneratedMethod)
    (source : String) :
    extensionTrait config members source =
      identifier source (Location.source source) >>= fun sourceName =>
        identifier (source ++ config.extensionSuffix) (Location.source source) >>= fun name =>
          .ok ⟨source, sourceName, name,
            members.filter (fun method => method.declared.sourceType == source)⟩ :=
  rfl

theorem extensionTrait_reportsAt (config : GeneratorConfig) (members : List GeneratedMethod)
    (source : String) :
    ReportsAt (fun place => place = Location.source source)
      (extensionTrait config members source) := by
  rw [extensionTrait_eq]
  apply (identifier_reportsAt _ _).bind
  intro sourceName
  exact (identifier_reportsAt _ _).bind (fun _ => ReportsAt.ok _)

/-- Whether a trait can be written does not depend on its methods. -/
theorem exists_extensionTrait {config : GeneratorConfig} {members : List GeneratedMethod}
    {source : String} {extension : ExtensionTrait}
    (h : extensionTrait config members source = .ok extension)
    (others : List GeneratedMethod) :
    exists extension', extensionTrait config others source = .ok extension' := by
  rw [extensionTrait_eq] at h
  rcases bind_eq_ok h with ⟨sourceName, hsource, hrest⟩
  rcases bind_eq_ok hrest with ⟨traitName, htrait, _hdone⟩
  rw [extensionTrait_eq, hsource]
  simp only [bind, Except.bind]
  rw [htrait]
  exact ⟨_, rfl⟩

/-- The names of a source and of its trait pass for identifiers, perhaps raw ones. -/
def CanExtend (config : GeneratorConfig) (source : String) : Prop :=
  Name.isEmittable source = true ∧ Name.isEmittable (source ++ config.extensionSuffix) = true

theorem extensionTrait_isOk_iff {config : GeneratorConfig} {members : List GeneratedMethod}
    {source : String}
    (h : forall name, extensionTrait config members source ≠ .error (.unwritable name)) :
    (exists extension, extensionTrait config members source = .ok extension) ↔
      CanExtend config source := by
  simp only [extensionTrait_eq, CanExtend] at h ⊢
  rcases identifier_outcome source (Location.source source) with
    ⟨hsource, sourceName, hok⟩ | ⟨hsource, hreported⟩ | hunwritable
  · rw [hok] at h ⊢
    rcases identifier_outcome (source ++ config.extensionSuffix) (Location.source source) with
      ⟨htrait, traitName, hok'⟩ | ⟨htrait, hreported⟩ | hunwritable
    · rw [hok']
      exact ⟨fun _ => ⟨hsource, htrait⟩, fun _ => ⟨_, rfl⟩⟩
    · rw [hreported, htrait]
      exact ⟨fun ⟨_, hcontra⟩ => (by cases hcontra), fun hcontra => (by cases hcontra.2)⟩
    · rw [hunwritable] at h
      exact absurd rfl (h _)
  · rw [hreported, hsource]
    exact ⟨fun ⟨_, hcontra⟩ => (by cases hcontra), fun hcontra => (by cases hcontra.1)⟩
  · rw [hunwritable] at h
    exact absurd rfl (h _)

/-- A trait is named after its source and holds all the methods of the source. -/
structure Extends (config : GeneratorConfig) (members : List GeneratedMethod) (source : String)
    (written : ExtensionTrait) : Prop where
  type : Identifier.ofName source = .ok written.source
  name : Identifier.ofName (source ++ config.extensionSuffix) = .ok written.name
  methods : written.methods =
    members.filter (fun method => method.declared.sourceType == source)

theorem extends_of_extensionTrait_eq_ok {config : GeneratorConfig}
    {members : List GeneratedMethod} {source : String} {written : ExtensionTrait}
    (h : extensionTrait config members source = .ok written) :
    Extends config members source written := by
  rw [extensionTrait_eq] at h
  rcases bind_eq_ok h with ⟨sourceName, hsource, hrest⟩
  rcases bind_eq_ok hrest with ⟨traitName, htrait, hdone⟩
  cases hdone
  exact ⟨identifier_eq_ok hsource, identifier_eq_ok htrait, rfl⟩

/-!
# All of an emission
-/

def written (methods : List UpdateMethod) : List GeneratedMethod :=
  methods.filterMap (fun declared => written? (method declared))

def members (methods : List UpdateMethod) : List GeneratedMethod :=
  (written methods).filter (fun method => !method.declared.inherent)

def traitSources (methods : List UpdateMethod) : List String :=
  Aggregation.sortedNames ((members methods).map (fun method => method.declared.sourceType))

def traitOf (config : GeneratorConfig) (methods : List UpdateMethod) (source : String) :
    Emitted ExtensionTrait :=
  extensionTrait config (members methods) source

structure Emits (config : GeneratorConfig) (runtime : List Token) (methods : List UpdateMethod)
    (emission : Emission) : Prop where
  runtime : emission.code.runtime = runtime
  functions : emission.code.functions =
    (written methods).filter (fun method => method.declared.inherent)
  traits : emission.code.traits =
    (traitSources methods).filterMap (fun source => written? (traitOf config methods source))
  diagnostics : emission.diagnostics =
    methods.filterMap (fun declared => reported? (method declared))
      ++ (traitSources methods).filterMap (fun source =>
        reported? (traitOf config methods source))
  methodsWritable : forall declared, declared ∈ methods -> forall name,
    method declared ≠ .error (.unwritable name)
  traitsWritable : forall source, source ∈ traitSources methods -> forall name,
    traitOf config methods source ≠ .error (.unwritable name)

theorem gather_map_eq_ok {α β : Type} {f : α -> Emitted β} {items : List α} {values : List β}
    {diagnostics : List Diagnostic} (h : gather (items.map f) = .ok (values, diagnostics)) :
    values = items.filterMap (fun item => written? (f item))
      ∧ diagnostics = items.filterMap (fun item => reported? (f item))
      ∧ forall item, item ∈ items -> forall name, f item ≠ .error (.unwritable name) := by
  rcases gather_eq_ok h with ⟨hvalues, hdiagnostics, hwritable⟩
  rw [List.filterMap_map] at hvalues hdiagnostics
  refine ⟨hvalues, hdiagnostics, ?_⟩
  intro item hitem name heq
  exact hwritable name (List.mem_map.mpr ⟨item, hitem, heq⟩)

theorem emits_of_ofMethods_eq_ok {config : GeneratorConfig} {runtime : List Token}
    {methods : List UpdateMethod} {emission : Emission}
    (h : ofMethods config runtime methods = .ok emission) :
    Emits config runtime methods emission := by
  rcases bind_eq_ok h with ⟨⟨written, methodDiagnostics⟩, hmethods, hrest⟩
  rcases bind_eq_ok hrest with ⟨⟨traits, traitDiagnostics⟩, htraits, hdone⟩
  rcases gather_map_eq_ok hmethods with ⟨rfl, rfl, hmethodsWritable⟩
  rcases gather_map_eq_ok htraits with ⟨rfl, rfl, htraitsWritable⟩
  cases hdone
  exact ⟨rfl, rfl, rfl, rfl, hmethodsWritable, htraitsWritable⟩

theorem ofMethods_singleton {config : GeneratorConfig} (runtime : List Token)
    {declared : UpdateMethod} {generated : GeneratedMethod} {traits : List ExtensionTrait}
    {diagnostics : List Diagnostic} (hwritten : method declared = .ok generated)
    (hown : declared.inherent = false)
    (htraits : gather [extensionTrait config [generated] declared.sourceType] =
      .ok (traits, diagnostics)) :
    ofMethods config runtime [declared] = .ok ⟨⟨runtime, traits, []⟩, diagnostics⟩ := by
  have horigin := (writes_of_method_eq_ok hwritten).origin
  have hgather : gather ([declared].map method) = .ok ([generated], []) := by
    simp only [List.map_cons, List.map_nil, hwritten]
    rfl
  have hmembers :
      [generated].filter (fun method => !method.declared.inherent) = [generated] := by
    simp [horigin, hown]
  have hfunctions : [generated].filter (fun method => method.declared.inherent) = [] := by
    simp [horigin, hown]
  have hsources :
      Aggregation.sortedNames [generated.declared.sourceType] = [declared.sourceType] := by
    rw [horigin]
    exact List.mergeSort_singleton _
  unfold ofMethods
  rw [hgather]
  simp only [bind, Except.bind, hmembers, hfunctions, List.map_cons, List.map_nil, hsources,
    htraits, List.nil_append]
  rfl

theorem ofMethods_function {config : GeneratorConfig} (runtime : List Token)
    {declared : UpdateMethod} {generated : GeneratedMethod}
    (hwritten : method declared = .ok generated) (hinherent : declared.inherent = true) :
    ofMethods config runtime [declared] = .ok ⟨⟨runtime, [], [generated]⟩, []⟩ := by
  have horigin := (writes_of_method_eq_ok hwritten).origin
  have hgather : gather ([declared].map method) = .ok ([generated], []) := by
    simp only [List.map_cons, List.map_nil, hwritten]
    rfl
  have hmembers : [generated].filter (fun method => !method.declared.inherent) = [] := by
    simp [horigin, hinherent]
  have hfunctions :
      [generated].filter (fun method => method.declared.inherent) = [generated] := by
    simp [horigin, hinherent]
  have hsources : Aggregation.sortedNames [] = [] := List.mergeSort_nil
  unfold ofMethods
  rw [hgather]
  simp only [bind, Except.bind, hmembers, hfunctions, List.map_nil, hsources]
  rfl

section Emits

variable {config : GeneratorConfig} {runtime : List Token} {methods : List UpdateMethod}
  {emission : Emission}

theorem written?_eq_some {α : Type} {outcome : Emitted α} {value : α} :
    written? outcome = some value ↔ outcome = .ok value := by
  cases outcome with
  | ok value' => simp [written?]
  | error problem => simp [written?]

theorem reported?_eq_some {α : Type} {outcome : Emitted α} {diagnostic : Diagnostic} :
    reported? outcome = some diagnostic ↔ outcome = .error (.reported diagnostic) := by
  cases outcome with
  | ok value => simp [reported?]
  | error problem =>
      cases problem with
      | reported other => simp [reported?]
      | unwritable name => simp [reported?]

theorem mem_written {generated : GeneratedMethod} :
    generated ∈ written methods ↔
      generated.declared ∈ methods ∧ method generated.declared = .ok generated := by
  unfold written
  rw [List.mem_filterMap]
  constructor
  · rintro ⟨declared, hmem, hwritten⟩
    have hok := written?_eq_some.mp hwritten
    have horigin := (writes_of_method_eq_ok hok).origin
    rw [horigin]
    exact ⟨hmem, hok⟩
  · rintro ⟨hmem, hok⟩
    exact ⟨_, hmem, written?_eq_some.mpr hok⟩

theorem mem_members {generated : GeneratedMethod} :
    generated ∈ members methods ↔
      generated ∈ written methods ∧ generated.declared.inherent = false := by
  simp [members]

theorem mem_traitSources {source : String} :
    source ∈ traitSources methods ↔
      exists generated, generated ∈ members methods
        ∧ generated.declared.sourceType = source := by
  unfold traitSources
  rw [Aggregation.mem_sortedNames, List.mem_map]

namespace Emits

theorem isError_of_mem (h : Emits config runtime methods emission) {diagnostic : Diagnostic}
    (hmem : diagnostic ∈ emission.diagnostics) :
    diagnostic.isError = true
      ∧ ((exists declared, declared ∈ methods
            ∧ method declared = .error (.reported diagnostic)
            ∧ IsLocationOf declared diagnostic.location)
        ∨ exists source, source ∈ traitSources methods
            ∧ traitOf config methods source = .error (.reported diagnostic)
            ∧ diagnostic.location = Location.source source) := by
  rw [h.diagnostics, List.mem_append, List.mem_filterMap, List.mem_filterMap] at hmem
  rcases hmem with ⟨declared, hdeclared, hreported⟩ | ⟨source, hsource, hreported⟩
  · have heq := reported?_eq_some.mp hreported
    have hreport := method_reportsAt declared diagnostic heq
    exact ⟨hreport.1, Or.inl ⟨declared, hdeclared, heq, hreport.2⟩⟩
  · have heq := reported?_eq_some.mp hreported
    have hreport := extensionTrait_reportsAt config (members methods) source diagnostic heq
    exact ⟨hreport.1, Or.inr ⟨source, hsource, heq, hreport.2⟩⟩

theorem written_or_reported (h : Emits config runtime methods emission)
    {declared : UpdateMethod} (hmem : declared ∈ methods) :
    (exists generated, method declared = .ok generated ∧ generated ∈ written methods)
      ∨ exists diagnostic, diagnostic ∈ emission.diagnostics
          ∧ method declared = .error (.reported diagnostic) := by
  cases houtcome : method declared with
  | ok generated =>
      have horigin := (writes_of_method_eq_ok houtcome).origin
      have hwritten : generated ∈ written methods :=
        mem_written.mpr (by rw [horigin]; exact ⟨hmem, houtcome⟩)
      exact Or.inl ⟨generated, rfl, hwritten⟩
  | error problem =>
      cases problem with
      | unwritable name => exact absurd houtcome (h.methodsWritable declared hmem name)
      | reported diagnostic =>
          refine Or.inr ⟨diagnostic, ?_, rfl⟩
          rw [h.diagnostics, List.mem_append, List.mem_filterMap]
          exact Or.inl ⟨declared, hmem, reported?_eq_some.mpr houtcome⟩

theorem trait_or_reported (h : Emits config runtime methods emission) {source : String}
    (hmem : source ∈ traitSources methods) :
    (exists extension, traitOf config methods source = .ok extension)
      ∨ exists diagnostic, diagnostic ∈ emission.diagnostics
          ∧ traitOf config methods source = .error (.reported diagnostic) := by
  cases houtcome : traitOf config methods source with
  | ok extension => exact Or.inl ⟨extension, rfl⟩
  | error problem =>
      cases problem with
      | unwritable name => exact absurd houtcome (h.traitsWritable source hmem name)
      | reported diagnostic =>
          refine Or.inr ⟨diagnostic, ?_, rfl⟩
          rw [h.diagnostics, List.mem_append, List.mem_filterMap, List.mem_filterMap]
          exact Or.inr ⟨source, hmem, reported?_eq_some.mpr houtcome⟩

theorem mem_traits (h : Emits config runtime methods emission) {extension : ExtensionTrait}
    (hmem : extension ∈ emission.code.traits) :
    exists source, source ∈ traitSources methods
      ∧ traitOf config methods source = .ok extension
      ∧ Extends config (members methods) source extension := by
  rw [h.traits, List.mem_filterMap] at hmem
  rcases hmem with ⟨source, hsource, hwritten⟩
  have hok := written?_eq_some.mp hwritten
  exact ⟨source, hsource, hok, extends_of_extensionTrait_eq_ok hok⟩

end Emits
end Emits

end Emission
end PartialUpdate
