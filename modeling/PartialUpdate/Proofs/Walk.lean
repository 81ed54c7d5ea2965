import PartialUpdate.Proofs.Except
import PartialUpdate.Resolution

/-!
# Walks through the members of types

A step of a written path enters a member of the type in which it is taken and, with an index, an
element of the member.  The next step is taken in the declared type on which it ends.  The path
leads to a field exactly when all of its steps can be taken; when only the last one cannot,
because there is no such member, the missing member is reported, and otherwise the path as a
whole.
-/

namespace PartialUpdate

/-- A step enters a stored member under its own name and under the stored one. -/
def MemberInfo.GoesBy (member : MemberInfo) (name : String) : Prop :=
  member.skipped = false ∧ (member.name = name ∨ member.storedName = name)

namespace TypeInfo

/-- The first of the members that go by a name. -/
def Names (owner : TypeInfo) (name : String) (member : MemberInfo) : Prop :=
  member.GoesBy name ∧ exists before after, owner.members = before ++ member :: after
    ∧ forall other, other ∈ before -> ¬ other.GoesBy name

def Lacks (owner : TypeInfo) (name : String) : Prop :=
  forall member, member ∈ owner.members -> ¬ member.GoesBy name

end TypeInfo

namespace PathSegment

structure Enters (segment : PathSegment) (owner : TypeInfo) (member : MemberInfo)
    (type : TypeRef) : Prop where
  names : owner.Names segment.member member
  whole : segment.index = none -> type = member.type
  element : segment.index ≠ none -> member.type.kind = .sequence type

def storedParts (segment : PathSegment) (member : MemberInfo) : List String :=
  member.storedName :: segment.indexSteps

end PathSegment

/-- A type by the name of a declared one, whether or not its values may be absent. -/
def TypeTable.Opens (table : TypeTable) (type : TypeRef) (next : TypeInfo) : Prop :=
  exists name, type.kind = .named name ∧ table.get? name = some next

namespace Walk

/-- Steps that all end on declared types, the stored path under which they lead, and the type in
which the next step is taken. -/
inductive Reaches (table : TypeTable) :
    TypeInfo -> List PathSegment -> List String -> TypeInfo -> Prop
  | start (owner : TypeInfo) : Reaches table owner [] [] owner
  | step {owner next current : TypeInfo} {segment : PathSegment} {rest : List PathSegment}
      {member : MemberInfo} {type : TypeRef} {parts : List String}
      (henters : segment.Enters owner member type) (hopens : table.Opens type next)
      (hrest : Reaches table next rest parts current) :
      Reaches table owner (segment :: rest) (segment.storedParts member ++ parts) current

/-- Either a step before the last one cannot be taken, or the last one has its member and cannot
be taken. -/
def IsStuck (table : TypeTable) (owner : TypeInfo) (segments : List PathSegment) : Prop :=
  forall before last parts current, segments = before ++ [last] ->
    Reaches table owner before parts current ->
      ¬ current.Lacks last.member ∧ forall member type, ¬ last.Enters current member type

/-- What a written path comes to from a type. -/
inductive Outcome (table : TypeTable) (owner : TypeInfo) (written : String) :
    Except PathProblem ResolvedTarget -> Prop
  | field {before : List PathSegment} {last : PathSegment} {parts : List String}
      {current : TypeInfo} {member : MemberInfo} {type : TypeRef}
      (hparse : TargetPath.parse written = .ok ⟨before ++ [last]⟩)
      (hreaches : Reaches table owner before parts current)
      (henters : last.Enters current member type) :
      Outcome table owner written
        (.ok ⟨".".intercalate (parts ++ last.storedParts member), type⟩)
  | unreadable {error : PathError} (hparse : TargetPath.parse written = .error error) :
      Outcome table owner written (.error (.propertyNotFound written owner.name))
  | missing {before : List PathSegment} {last : PathSegment} {parts : List String}
      {current : TypeInfo} (hparse : TargetPath.parse written = .ok ⟨before ++ [last]⟩)
      (hreaches : Reaches table owner before parts current)
      (hlacks : current.Lacks last.member) :
      Outcome table owner written (.error (.propertyNotFound last.member current.name))
  | invalid {path : TargetPath} (hparse : TargetPath.parse written = .ok path)
      (hstuck : IsStuck table owner path.segments) :
      Outcome table owner written (.error (.invalidNested written owner.name))

end Walk

/-- The path under which a binding writes: the one declared, or the name of the property. -/
def ResolvedBinding.written? (binding : ResolvedBinding) : Option String :=
  binding.spec.targetName.or binding.source.propertyName?

/-!
# Single steps
-/

theorem MemberInfo.answersTo_iff {member : MemberInfo} {name : String} :
    member.answersTo name = true ↔ member.GoesBy name := by
  simp [answersTo, GoesBy]

namespace TypeInfo

variable {owner : TypeInfo} {name : String}

theorem member?_eq_some_iff {member : MemberInfo} :
    owner.member? name = some member ↔ owner.Names name member := by
  rw [member?, List.find?_eq_some_iff_append, MemberInfo.answersTo_iff]
  simp only [Bool.not_eq_true', ← Bool.not_eq_true, MemberInfo.answersTo_iff]
  rfl

theorem member?_eq_none_iff : owner.member? name = none ↔ owner.Lacks name := by
  rw [member?, List.find?_eq_none]
  simp only [MemberInfo.answersTo_iff]
  rfl

end TypeInfo

namespace Walk

variable {table : TypeTable}

theorem enters_iff {segment : PathSegment} {owner : TypeInfo} {member : MemberInfo}
    {type : TypeRef} :
    segment.Enters owner member type ↔
      owner.member? segment.member = some member
        ∧ stepType? member.type segment.index = some type := by
  have htype : stepType? member.type segment.index = some type ↔
      (segment.index = none -> type = member.type)
        ∧ (segment.index ≠ none -> member.type.kind = .sequence type) := by
    unfold stepType? TypeRef.element?
    cases segment.index with
    | none => simp [eq_comm]
    | some index => cases member.type.kind <;> simp
  rw [TypeInfo.member?_eq_some_iff, htype]
  exact ⟨fun h => ⟨h.names, h.whole, h.element⟩, fun h => ⟨h.1, h.2.1, h.2.2⟩⟩

theorem declared?_eq_some_iff {type : TypeRef} {next : TypeInfo} :
    declared? table type = some next ↔ table.Opens type next := by
  unfold declared? TypeRef.namedType? TypeTable.Opens
  cases type.kind <;> simp

/-!
# Whole runs
-/

variable {invalid : PathProblem} {owner current : TypeInfo}
variable {before rest : List PathSegment} {segment last : PathSegment} {parts : List String}

theorem run_step {next : TypeInfo} {member : MemberInfo} {type : TypeRef}
    (henters : segment.Enters owner member type) (hopens : table.Opens type next)
    (hrest : rest ≠ []) :
    run table invalid owner (segment :: rest) =
      (run table invalid next rest).map
        (fun found => (segment.storedParts member ++ found.1, found.2)) := by
  rcases enters_iff.mp henters with ⟨hmember, htype⟩
  have hmore : rest.isEmpty = false := List.isEmpty_eq_false_iff.mpr hrest
  simp only [run, hmember, htype, hmore, declared?_eq_some_iff.mpr hopens,
    Bool.false_eq_true, if_false]
  cases run table invalid next rest with
  | error problem => rfl
  | ok found => rfl

theorem run_append (hreaches : Reaches table owner before parts current) (hrest : rest ≠ []) :
    run table invalid owner (before ++ rest) =
      (run table invalid current rest).map (fun found => (parts ++ found.1, found.2)) := by
  induction hreaches with
  | start owner =>
      rw [List.nil_append]
      cases run table invalid owner rest with
      | error problem => rfl
      | ok found => rfl
  | step henters hopens _hrest ih =>
      rename_i owner next current segment more member type parts
      have hmore : more ++ rest ≠ [] := List.append_ne_nil_of_right_ne_nil more hrest
      rw [List.cons_append, run_step henters hopens hmore, ih]
      cases run table invalid current rest with
      | error problem => rfl
      | ok found =>
          show Except.ok (_ ++ (_ ++ found.1), found.2) = Except.ok ((_ ++ _) ++ found.1, found.2)
          rw [List.append_assoc]

theorem run_of_enters {member : MemberInfo} {type : TypeRef}
    (henters : last.Enters owner member type) :
    run table invalid owner [last] = .ok (last.storedParts member, type) := by
  rcases enters_iff.mp henters with ⟨hmember, htype⟩
  simp [run, hmember, htype, PathSegment.storedParts]

theorem run_of_lacks (hlacks : owner.Lacks last.member) :
    run table invalid owner [last] = .error (.propertyNotFound last.member owner.name) := by
  simp [run, TypeInfo.member?_eq_none_iff.mpr hlacks]

/-- A run that neither comes to a field nor misses only the last member is invalid: a step that can
be taken leaves the rest stuck in the type to which it leads. -/
theorem run_of_isStuck {segments : List PathSegment} (hstuck : IsStuck table owner segments) :
    run table invalid owner segments = .error invalid := by
  induction segments generalizing owner with
  | nil => rfl
  | cons segment rest ih =>
      cases hmember : owner.member? segment.member with
      | none =>
          cases rest with
          | nil =>
              have hlacks := TypeInfo.member?_eq_none_iff.mp hmember
              exact absurd hlacks (hstuck [] segment [] owner rfl (.start owner)).1
          | cons following rest => simp [run, hmember]
      | some member =>
          cases htype : stepType? member.type segment.index with
          | none => simp [run, hmember, htype]
          | some type =>
              have henters := enters_iff.mpr ⟨hmember, htype⟩
              cases rest with
              | nil =>
                  have hends := (hstuck [] segment [] owner rfl (.start owner)).2
                  exact absurd henters (hends member type)
              | cons following rest =>
                  cases hdeclared : declared? table type with
                  | none => simp [run, hmember, htype, hdeclared]
                  | some next =>
                      have hopens := declared?_eq_some_iff.mp hdeclared
                      have hinvalid : run table invalid next (following :: rest) =
                          .error invalid := by
                        apply ih
                        intro before last parts current hsegments hreaches
                        exact hstuck (segment :: before) last _ current
                          (congrArg (List.cons segment) hsegments)
                          (.step henters hopens hreaches)
                      rw [run_step henters hopens (List.cons_ne_nil _ _), hinvalid]
                      rfl

/-!
# Written paths
-/

variable {written : String} {outcome : Except PathProblem ResolvedTarget}

theorem target_of_outcome (h : Outcome table owner written outcome) :
    PathPrefix.target table ⟨[], owner⟩ written = outcome := by
  cases h with
  | unreadable hparse => rw [PathPrefix.target, hparse]
  | field hparse hreaches henters =>
      simp [PathPrefix.target, hparse, Walk.path, run_append hreaches, run_of_enters henters,
        Except.map, bind, Except.bind, pure, Except.pure]
  | missing hparse hreaches hlacks =>
      simp [PathPrefix.target, hparse, Walk.path, run_append hreaches, run_of_lacks hlacks,
        Except.map, bind, Except.bind]
  | invalid hparse hstuck =>
      simp [PathPrefix.target, hparse, Walk.path, run_of_isStuck hstuck, bind, Except.bind]

theorem exists_outcome (table : TypeTable) (owner : TypeInfo) (written : String) :
    exists outcome, Outcome table owner written outcome := by
  cases hparse : TargetPath.parse written with
  | error e => exact ⟨_, .unreadable hparse⟩
  | ok path =>
      by_cases hstuck : IsStuck table owner path.segments
      · exact ⟨_, .invalid hparse hstuck⟩
      · unfold IsStuck at hstuck
        push Not at hstuck
        rcases hstuck with ⟨before, last, parts, current, hsegments, hreaches, hends⟩
        rcases path with ⟨segments⟩
        cases hsegments
        by_cases hlacks : current.Lacks last.member
        · exact ⟨_, .missing hparse hreaches hlacks⟩
        · rcases hends hlacks with ⟨member, type, henters⟩
          exact ⟨_, .field hparse hreaches henters⟩

theorem target_eq_iff_outcome :
    PathPrefix.target table ⟨[], owner⟩ written = outcome ↔
      Outcome table owner written outcome := by
  constructor
  · intro h
    rcases exists_outcome table owner written with ⟨found, hfound⟩
    cases (target_of_outcome hfound).symm.trans h
    exact hfound
  · exact target_of_outcome

end Walk

/-!
# Targets of bindings
-/

namespace Resolution

variable {source target : TypeInfo} {table : TypeTable} {config : GeneratorConfig}
variable {marker : MarkerSpec} {method : ResolvedMethod} {binding : ResolvedBinding}
variable {written : String} {position : Nat}

/-- The target of a binding is what its written path comes to from the target type of the marker,
unless the marker has a nested path. -/
theorem resolve_target_iff (hmarker : source.markers[position]? = some marker)
    (hmethod : (resolve source table config).methods[position]? = some method)
    (hnested : marker.nestedPath = none)
    (htarget : table.get? (simpleTypeName marker.targetType) = some target)
    (hbinding : binding ∈ method.bindings) (hwritten : binding.written? = some written)
    (outcome : Except PathProblem ResolvedTarget) :
    binding.target = outcome ↔ Walk.Outcome table target written outcome := by
  rw [resolve, List.getElem?_map, hmarker] at hmethod
  cases hmethod
  rcases List.mem_map.mp hbinding with ⟨⟨slot, order⟩, _htaking, rfl⟩
  have hstart : PathPrefix.ofMarker table marker = .ok ⟨[], target⟩ := by
    rw [PathPrefix.ofMarker, htarget, hnested]
  have hslot : (slot.spec.bind PropertySpec.targetName).or slot.member? = some written := by
    have hspec : slot.spec.bind PropertySpec.targetName = (slot.spec.getD {}).targetName := by
      cases slot.spec <;> rfl
    rw [hspec]
    exact hwritten
  have hwalked : slotTarget table (PathPrefix.ofMarker table marker) slot =
      PathPrefix.target table ⟨[], target⟩ written := by
    rw [hstart, slotTarget, hslot]
  change slotTarget table (PathPrefix.ofMarker table marker) slot = outcome ↔ _
  rw [hwalked]
  exact Walk.target_eq_iff_outcome

def branch : TypeInfo where
  name := "Branch"
  members :=
    [{ MemberInfo.plain "title" .text with storedName := "t" },
      MemberInfo.plain "branches" (.sequence (.named "Branch"))]

def branchSource : TypeInfo where
  name := "Patch"
  members :=
    [{ MemberInfo.plain "title" .text with
       specs := [{ targetName := some "branches[2].branches[$].title" },
         { targetName := some "branches[].owner" },
         { targetName := some "branches.title" },
         { targetName := some "branches[" }] }]
  markers := [{ targetType := "Branch" }]

def branchLocation : Location :=
  (Location.source "Patch").withMethod "Branch" "to_update"

def branchBinding (order : Nat) (written : String) (target : Except PathProblem ResolvedTarget) :
    ResolvedBinding where
  order := order
  source := .property "title" .text
  spec := { targetName := some written }
  options := ⟨true, true, .set, true, false⟩
  target := target
  location := { branchLocation with member := some "title" }

def branchMethod : ResolvedMethod where
  sourceType := "Patch"
  targetType := "Branch"
  methodName := "to_update"
  requiresExtensibleTarget := false
  targetFound := true
  prefixProblem := none
  bindings :=
    [branchBinding 0 "branches[2].branches[$].title" (.ok ⟨"branches.2.branches.$.t", .text⟩),
      branchBinding 1 "branches[].owner" (.error (.propertyNotFound "owner" "Branch")),
      branchBinding 2 "branches.title" (.error (.invalidNested "branches.title" "Branch")),
      branchBinding 3 "branches[" (.error (.propertyNotFound "branches[" "Branch"))]
  location := branchLocation

theorem resolve_branches :
    resolve branchSource ⟨[branch, branchSource]⟩ {} = ⟨[branchMethod], []⟩ := by
  rfl

theorem resolve_target_iff_branches :
    resolve branchSource ⟨[branch, branchSource]⟩ {} = ⟨[branchMethod], []⟩
      ∧ forall binding, binding ∈ branchMethod.bindings ->
          exists written, binding.written? = some written
            ∧ Walk.Outcome ⟨[branch, branchSource]⟩ branch written binding.target := by
  refine ⟨resolve_branches, ?_⟩
  intro binding hbinding
  have hmarker : branchSource.markers[0]? = some { targetType := "Branch" } := rfl
  have hmethod : (resolve branchSource ⟨[branch, branchSource]⟩ {}).methods[0]? =
      some branchMethod := by
    rw [resolve_branches]
    rfl
  have htarget : TypeTable.get? ⟨[branch, branchSource]⟩ (simpleTypeName "Branch") =
      some branch := rfl
  have hwritten : exists written, binding.written? = some written := by
    revert binding
    simp [branchMethod, branchBinding, ResolvedBinding.written?]
  rcases hwritten with ⟨written, hwritten⟩
  exact ⟨written, hwritten,
    (resolve_target_iff hmarker hmethod rfl htarget hbinding hwritten binding.target).mp rfl⟩

end Resolution
end PartialUpdate
