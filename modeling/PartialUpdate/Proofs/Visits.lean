import PartialUpdate.Proofs.Walk

/-!
# The places that a walk visits

A walk that leads to a field visits a place with each of its steps: a member, by its stored name,
and with an index an element of the member.  The stored path writes these places one after the
other, those of a nested path in front of those of the path below it.
-/

namespace PartialUpdate

/-!
# Steps
-/

theorem PathSegment.Enters.mem {segment : PathSegment} {owner : TypeInfo} {member : MemberInfo}
    {type : TypeRef} (h : segment.Enters owner member type) : member ∈ owner.members := by
  rcases h.names.2 with ⟨before, after, hmembers, _hfirst⟩
  rw [hmembers]
  exact List.mem_append_right before List.mem_cons_self

namespace TypeTable

theorem mem_types_of_get? {table : TypeTable} {name : String} {info : TypeInfo}
    (h : table.get? name = some info) : info ∈ table.types :=
  List.mem_of_find?_eq_some h

theorem Opens.mem {table : TypeTable} {type : TypeRef} {next : TypeInfo}
    (h : table.Opens type next) : next ∈ table.types := by
  rcases h with ⟨name, _hkind, hget⟩
  exact mem_types_of_get? hget

end TypeTable

namespace Walk

/-- A step of a walk: the stored name of the member that it enters, and the element of it. -/
structure Step where
  storedName : String
  index : Option PathIndex
  deriving DecidableEq

def Step.parts (step : Step) : List String :=
  step.storedName :: (step.index.map PathIndex.render).toList

/-- The steps of a walk, and the type of the field to which it leads. -/
inductive Visits (table : TypeTable) :
    TypeInfo -> List PathSegment -> List Step -> TypeRef -> Prop
  | last {owner : TypeInfo} {segment : PathSegment} {member : MemberInfo} {type : TypeRef}
      (henters : segment.Enters owner member type) :
      Visits table owner [segment] [⟨member.storedName, segment.index⟩] type
  | step {owner next : TypeInfo} {segment : PathSegment} {rest : List PathSegment}
      {member : MemberInfo} {type found : TypeRef} {steps : List Step}
      (henters : segment.Enters owner member type) (hopens : table.Opens type next)
      (hrest : Visits table next rest steps found) :
      Visits table owner (segment :: rest) (⟨member.storedName, segment.index⟩ :: steps) found

variable {table : TypeTable} {invalid : PathProblem} {owner next : TypeInfo}
variable {segments front back : List PathSegment} {steps : List Step}
variable {parts : List String} {type found : TypeRef}

theorem flatMap_parts_ne_nil (hne : steps ≠ []) : steps.flatMap Step.parts ≠ [] := by
  cases steps with
  | nil => exact absurd rfl hne
  | cons step rest => exact List.cons_ne_nil _ _

namespace Visits

theorem segments_ne_nil (h : Visits table owner segments steps type) : segments ≠ [] := by
  cases h with
  | last henters => exact List.cons_ne_nil _ _
  | step henters hopens hrest => exact List.cons_ne_nil _ _

theorem steps_ne_nil (h : Visits table owner segments steps type) : steps ≠ [] := by
  cases h with
  | last henters => exact List.cons_ne_nil _ _
  | step henters hopens hrest => exact List.cons_ne_nil _ _

theorem append {frontSteps backSteps : List Step}
    (hfront : Visits table owner front frontSteps type) (hopens : table.Opens type next)
    (hback : Visits table next back backSteps found) :
    Visits table owner (front ++ back) (frontSteps ++ backSteps) found := by
  induction hfront with
  | last henters => exact .step henters hopens hback
  | step henters hopens' _hrest ih => exact .step henters hopens' (ih hopens)

theorem of_single {segment : PathSegment} (h : Visits table owner [segment] steps type) :
    exists member, segment.Enters owner member type
      ∧ steps = [⟨member.storedName, segment.index⟩] := by
  cases h with
  | last henters => exact ⟨_, henters, rfl⟩
  | step henters hopens hrest => exact absurd rfl hrest.segments_ne_nil

theorem exists_of_append (hfront : front ≠ []) (hback : back ≠ [])
    (h : Visits table owner (front ++ back) steps found) :
    exists frontSteps backSteps type next, Visits table owner front frontSteps type
      ∧ table.Opens type next ∧ Visits table next back backSteps found
      ∧ steps = frontSteps ++ backSteps := by
  induction front generalizing owner steps with
  | nil => exact absurd rfl hfront
  | cons segment rest ih =>
      rw [List.cons_append] at h
      generalize hmore : rest ++ back = more at h
      cases h with
      | last henters => exact absurd (List.append_eq_nil_iff.mp hmore).2 hback
      | step henters hopens hrest =>
          cases rest with
          | nil =>
              cases hmore
              exact ⟨_, _, _, _, .last henters, hopens, hrest, rfl⟩
          | cons following rest =>
              rw [← hmore] at hrest
              rcases ih (List.cons_ne_nil _ _) hrest with
                ⟨frontSteps, backSteps, type, next, hvisits, hlast, hvisits', rfl⟩
              exact ⟨_, _, _, _, .step henters hopens hvisits, hlast, hvisits', rfl⟩

end Visits

/-!
# Runs
-/

theorem run_of_visits (h : Visits table owner segments steps type) :
    run table invalid owner segments = .ok (steps.flatMap Step.parts, type) := by
  induction h with
  | last henters =>
      rw [run_of_enters henters, List.flatMap_singleton]
      rfl
  | step henters hopens hrest ih =>
      rw [run_step henters hopens hrest.segments_ne_nil, ih]
      rfl

theorem exists_enters_of_run {segment : PathSegment} {rest : List PathSegment}
    {result : List String × TypeRef}
    (h : run table invalid owner (segment :: rest) = .ok result) :
    exists member type, segment.Enters owner member type
      ∧ (rest ≠ [] -> exists next, table.Opens type next) := by
  unfold run at h
  cases hmember : owner.member? segment.member with
  | none =>
      simp only [hmember] at h
      split at h <;> cases h
  | some member =>
      cases hstep : stepType? member.type segment.index with
      | none =>
          simp only [hmember, hstep] at h
          cases h
      | some type =>
          refine ⟨member, type, enters_iff.mpr ⟨hmember, hstep⟩, ?_⟩
          intro hrest
          cases hdeclared : declared? table type with
          | none => simp [hmember, hstep, hrest, hdeclared] at h
          | some next => exact ⟨next, declared?_eq_some_iff.mp hdeclared⟩

theorem exists_visits_of_run (h : run table invalid owner segments = .ok (parts, type)) :
    exists steps, Visits table owner segments steps type ∧ parts = steps.flatMap Step.parts := by
  induction segments generalizing owner parts with
  | nil => cases h
  | cons segment rest ih =>
      rcases exists_enters_of_run h with ⟨member, entered, henters, hopens⟩
      cases rest with
      | nil =>
          rw [run_of_enters henters] at h
          cases h
          refine ⟨_, .last henters, ?_⟩
          rw [List.flatMap_singleton]
          rfl
      | cons following rest =>
          rcases hopens (List.cons_ne_nil _ _) with ⟨next, hopens⟩
          rw [run_step henters hopens (List.cons_ne_nil _ _)] at h
          cases hrun : run table invalid next (following :: rest) with
          | error problem =>
              rw [hrun] at h
              cases h
          | ok more =>
              rw [hrun] at h
              cases h
              rcases ih hrun with ⟨steps, hvisits, hparts⟩
              refine ⟨_, .step henters hopens hvisits, ?_⟩
              rw [List.flatMap_cons, hparts]
              rfl

theorem run_eq_ok_iff :
    run table invalid owner segments = .ok (parts, type) ↔
      exists steps, Visits table owner segments steps type
        ∧ parts = steps.flatMap Step.parts := by
  constructor
  · exact exists_visits_of_run
  · rintro ⟨steps, hvisits, rfl⟩
    exact run_of_visits hvisits

end Walk

/-!
# Paths below a start
-/

namespace PathPrefix

variable {table : TypeTable} {owner : TypeInfo} {start : PathPrefix} {nested written : String}
variable {target : ResolvedTarget}

theorem ofNested_eq_ok_iff :
    ofNested table owner nested = .ok start ↔
      exists path steps type, TargetPath.parse nested = .ok path ∧ path.endsWithIndex = true
        ∧ Walk.Visits table owner path.segments steps type ∧ table.Opens type start.owner
        ∧ start.parts = steps.flatMap Walk.Step.parts := by
  rcases start with ⟨parts, element⟩
  constructor
  · intro h
    unfold ofNested at h
    split at h
    · cases h
    · rename_i path hparse
      split at h
      · cases h
      · rename_i hindex
        split at h
        · cases h
        · rename_i found type hwalk
          split at h
          · cases h
          · rename_i next hdeclared
            cases h
            rcases Walk.run_eq_ok_iff.mp hwalk with ⟨steps, hvisits, hparts⟩
            exact ⟨path, steps, type, hparse, by simpa using hindex, hvisits,
              Walk.declared?_eq_some_iff.mp hdeclared, hparts⟩
  · rintro ⟨path, steps, type, hparse, hindex, hvisits, hopens, hparts⟩
    have hwalk : Walk.path table owner nested path = .ok (parts, type) :=
      Walk.run_eq_ok_iff.mpr ⟨steps, hvisits, hparts⟩
    simp [ofNested, hparse, hindex, hwalk, Walk.declared?_eq_some_iff.mpr hopens]

/-- A path leads to a field below its start when the walk that it spells does. -/
theorem target_eq_ok_iff :
    start.target table written = .ok target ↔
      exists path steps, TargetPath.parse written = .ok path
        ∧ Walk.Visits table start.owner path.segments steps target.type
        ∧ target.path = ".".intercalate (start.parts ++ steps.flatMap Walk.Step.parts) := by
  rcases target with ⟨stored, type⟩
  unfold PathPrefix.target
  cases hparse : TargetPath.parse written with
  | error problem => simp
  | ok path =>
      constructor
      · intro h
        rcases bind_eq_ok h with ⟨⟨parts, found⟩, hwalk, hdone⟩
        cases hdone
        rcases Walk.run_eq_ok_iff.mp hwalk with ⟨steps, hvisits, rfl⟩
        exact ⟨path, steps, rfl, hvisits, rfl⟩
      · rintro ⟨read, steps, hread, hvisits, rfl⟩
        cases hread
        have hwalk : Walk.path table start.owner written path =
            .ok (steps.flatMap Walk.Step.parts, type) :=
          Walk.run_eq_ok_iff.mpr ⟨steps, hvisits, rfl⟩
        simp only [hwalk]
        rfl

theorem ofMarker_eq_ok_iff {marker : MarkerSpec} {start : PathPrefix} :
    ofMarker table marker = .ok start ↔
      exists owner, table.get? (simpleTypeName marker.targetType) = some owner
        ∧ ((marker.nestedPath = none ∧ start = ⟨[], owner⟩)
          ∨ exists nested, marker.nestedPath = some nested
              ∧ ofNested table owner nested = .ok start) := by
  unfold ofMarker
  cases table.get? (simpleTypeName marker.targetType) with
  | none => simp
  | some owner => cases marker.nestedPath <;> simp [eq_comm]

theorem ofMarker_owner_mem {marker : MarkerSpec} (h : ofMarker table marker = .ok start) :
    start.owner ∈ table.types := by
  rcases ofMarker_eq_ok_iff.mp h with ⟨owner, howner, ⟨_hnone, rfl⟩ | ⟨nested, _hnested, hstart⟩⟩
  · exact TypeTable.mem_types_of_get? howner
  · rcases ofNested_eq_ok_iff.mp hstart with ⟨_, _, _, _, _, _, hopens, _⟩
    exact hopens.mem

end PathPrefix

/-!
# Bindings
-/

def MarkerSpec.Resolves (table : TypeTable) (marker : MarkerSpec) (written : String)
    (target : ResolvedTarget) : Prop :=
  exists start, PathPrefix.ofMarker table marker = .ok start
    ∧ start.target table written = .ok target

/-- The path under which a slot writes: the one declared, or the name of the member. -/
def Slot.written? (slot : Slot) : Option String :=
  (slot.spec.bind PropertySpec.targetName).or slot.member?

namespace Resolution

variable {source : TypeInfo} {table : TypeTable} {config : GeneratorConfig} {marker : MarkerSpec}
variable {binding : ResolvedBinding} {written : String} {target : ResolvedTarget}

theorem slotTarget_eq_ok_iff {slot : Slot} :
    slotTarget table (PathPrefix.ofMarker table marker) slot = .ok target ↔
      exists written, slot.written? = some written ∧ marker.Resolves table written target := by
  unfold MarkerSpec.Resolves slotTarget Slot.written?
  cases PathPrefix.ofMarker table marker with
  | error problem => cases problem <;> simp
  | ok start => cases (slot.spec.bind PropertySpec.targetName).or slot.member? <;> simp

/-- A binding of the method that a marker of the source declares, and the path under which it
writes. -/
def BindsUnder (source : TypeInfo) (table : TypeTable) (config : GeneratorConfig)
    (marker : MarkerSpec) (binding : ResolvedBinding) (written : String) : Prop :=
  exists (position : Nat) (resolved : ResolvedMethod), source.markers[position]? = some marker
    ∧ (resolve source table config).methods[position]? = some resolved
    ∧ binding ∈ resolved.bindings ∧ binding.written? = some written

/-- The target of a binding is the field to which its path leads from where the paths of the
marker start. -/
theorem BindsUnder.target_eq_ok_iff (h : BindsUnder source table config marker binding written) :
    binding.target = .ok target ↔ marker.Resolves table written target := by
  rcases h with ⟨position, resolved, hmarker, hmethod, hbinding, hwritten⟩
  rw [resolve, List.getElem?_map, hmarker] at hmethod
  cases hmethod
  rcases List.mem_map.mp hbinding with ⟨⟨slot, order⟩, _htaking, rfl⟩
  have hslot : slot.written? = some written := by
    have hspec : slot.spec.bind PropertySpec.targetName = (slot.spec.getD {}).targetName := by
      cases slot.spec <;> rfl
    rw [Slot.written?, hspec]
    exact hwritten
  change slotTarget table (PathPrefix.ofMarker table marker) slot = .ok target ↔ _
  simp only [slotTarget_eq_ok_iff, hslot, Option.some.injEq, exists_eq_left']

end Resolution
end PartialUpdate
