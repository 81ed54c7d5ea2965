import PartialUpdate.Analysis
import PartialUpdate.Proofs.Order
import Mathlib.Data.List.Forall2

/-!
# Types declared in another order

What a marker resolves to depends on the tables only through the names that they look up, and on
the types found there not through their markers.  So neither the order of the types nor the order
of the markers on them shows in a resolved method.
-/

namespace PartialUpdate

namespace TypeInfo

/-- The types differ at most in the order of their markers. -/
structure Alike (info other : TypeInfo) : Prop where
  name : info.name = other.name
  members : info.members = other.members
  methods : info.methods = other.methods
  extensible : info.extensible = other.extensible
  typeSpecs : info.typeSpecs = other.typeSpecs
  markers : info.markers.Perm other.markers

namespace Alike

variable {info other : TypeInfo}

theorem refl (info : TypeInfo) : info.Alike info :=
  ⟨rfl, rfl, rfl, rfl, rfl, List.Perm.refl _⟩

theorem member?_eq (h : info.Alike other) (segment : String) :
    info.member? segment = other.member? segment := by
  rw [member?, member?, h.members]

theorem hasMemberNamed_eq (h : info.Alike other) (name : String) :
    info.hasMemberNamed name = other.hasMemberNamed name := by
  rw [hasMemberNamed, hasMemberNamed, h.members, h.methods]

theorem isSource_eq (h : info.Alike other) : info.isSource = other.isSource := by
  rw [isSource, isSource, h.markers.isEmpty_eq, h.typeSpecs, h.members]

/-!
# Routes
-/

/-- A single marker is first in either order, and of several none counts. -/
theorem fallbackMethod_eq (h : info.Alike other) (config : GeneratorConfig) :
    info.fallbackMethod config = other.fallbackMethod config := by
  have hlength := h.markers.length_eq
  unfold fallbackMethod
  match hinfo : info.markers, hother : other.markers with
  | [only], [only'] =>
      have hperm := h.markers
      rw [hinfo, hother] at hperm
      cases List.perm_singleton.mp hperm
      rfl
  | [], [] => rfl
  | _ :: _ :: _, _ :: _ :: _ => rfl
  | [], _ :: _ | _ :: _, [] | [_], _ :: _ :: _ | _ :: _ :: _, [_] =>
      rw [hinfo, hother] at hlength
      simp at hlength

theorem mem_declaredMethods (h : info.Alike other) (config : GeneratorConfig) (name : String) :
    (info.declaredMethods config).contains name =
      (other.declaredMethods config).contains name := by
  have hmem := (h.markers.map config.markerMethod).mem_iff (a := name)
  rw [Bool.eq_iff_iff, List.contains_iff_mem, List.contains_iff_mem]
  simpa [declaredMethods] using hmem

theorem routedMethod?_eq (h : info.Alike other) (config : GeneratorConfig) (spec : PropertySpec) :
    info.routedMethod? config spec = other.routedMethod? config spec := by
  rw [routedMethod?, routedMethod?, h.fallbackMethod_eq]

theorem routes_eq (h : info.Alike other) (config : GeneratorConfig) (spec : PropertySpec)
    (method : String) : info.routes config spec method = other.routes config spec method := by
  rw [routes, routes, h.routedMethod?_eq, h.mem_declaredMethods]

theorem takesPart_eq (h : info.Alike other) (config : GeneratorConfig) (marker : MarkerSpec) :
    info.takesPart config marker = other.takesPart config marker := by
  funext slot
  simp only [takesPart, h.routes_eq]

theorem slots_eq (h : info.Alike other) : Slot.ofSource info = Slot.ofSource other := by
  rw [Slot.ofSource, Slot.ofSource, h.typeSpecs, h.members]

end Alike
end TypeInfo

/-!
# Tables that look up alike types
-/

theorem none_or_some_of_rel {α β : Type} {R : α -> β -> Prop} {a : Option α} {b : Option β}
    (h : Option.Rel R a b) :
    (a = none ∧ b = none) ∨ exists x y, a = some x ∧ b = some y ∧ R x y := by
  cases h with
  | none => exact Or.inl ⟨rfl, rfl⟩
  | some hxy => exact Or.inr ⟨_, _, rfl, rfl, hxy⟩

namespace TypeTable

/-- Under every name the tables have alike types, or both have none. -/
def LooksUpAlike (table other : TypeTable) : Prop :=
  forall name, Option.Rel TypeInfo.Alike (table.get? name) (other.get? name)

variable {table other : TypeTable}

theorem find?_eq_of_perm (hnodup : table.names.Nodup) (hperm : table.types.Perm other.types)
    (name : String) : table.find? name = other.find? name := by
  have hunder := Ordered.under_eq_of_perm hperm hnodup name
  unfold Ordered.under at hunder
  rw [find?, find?, ← List.head?_filter, ← List.head?_filter, hunder]

theorem looksUpAlike_of_perm (hnodup : table.names.Nodup)
    (hperm : table.types.Perm other.types) : LooksUpAlike table other := by
  intro name
  rw [get?, get?, find?_eq_of_perm hnodup hperm]
  cases other.find? (simpleTypeName name) with
  | none => exact Option.Rel.none
  | some info => exact Option.Rel.some (TypeInfo.Alike.refl info)

theorem find?_alike (name : String) {types others : List TypeInfo}
    (halike : List.Forall₂ TypeInfo.Alike types others) :
    Option.Rel TypeInfo.Alike (types.find? (fun info => info.name == name))
      (others.find? (fun info => info.name == name)) := by
  induction halike with
  | nil => exact Option.Rel.none
  | cons hinfo _hrest ih =>
      rw [List.find?_cons, List.find?_cons, hinfo.name]
      split
      · exact Option.Rel.some hinfo
      · exact ih

theorem looksUpAlike_of_forall₂ (halike : List.Forall₂ TypeInfo.Alike table.types other.types) :
    LooksUpAlike table other :=
  fun name => find?_alike (simpleTypeName name) halike

end TypeTable

/-!
# Walks
-/

namespace Walk

variable {table other : TypeTable}

theorem declared?_alike (hlook : table.LooksUpAlike other) (type : TypeRef) :
    Option.Rel TypeInfo.Alike (declared? table type) (declared? other type) := by
  unfold declared?
  cases type.namedType? with
  | none => exact Option.Rel.none
  | some name => exact hlook name

theorem run_eq (hlook : table.LooksUpAlike other) (invalid : PathProblem)
    (segments : List PathSegment) {current current' : TypeInfo}
    (hcurrent : current.Alike current') :
    run table invalid current segments = run other invalid current' segments := by
  induction segments generalizing current current' with
  | nil => rfl
  | cons segment rest ih =>
      rw [run, run, hcurrent.member?_eq, hcurrent.name]
      cases current'.member? segment.member with
      | none => rfl
      | some member =>
          dsimp only
          cases stepType? member.type segment.index with
          | none => rfl
          | some type =>
              dsimp only
              rcases none_or_some_of_rel (declared?_alike hlook type) with
                ⟨hnone, hnone'⟩ | ⟨next, next', hnext, hnext', halike⟩
              · rw [hnone, hnone']
              · rw [hnext, hnext']
                dsimp only
                rw [ih halike]

theorem path_eq (hlook : table.LooksUpAlike other) {owner owner' : TypeInfo}
    (howner : owner.Alike owner') (written : String) (path : TargetPath) :
    Walk.path table owner written path = Walk.path other owner' written path := by
  rw [Walk.path, Walk.path, run_eq hlook _ _ howner, howner.name]

end Walk

namespace PathPrefix

variable {table other : TypeTable}

/-- The prefixes are one problem, or lead to alike types by the same steps. -/
inductive Alike : Except PathProblem PathPrefix -> Except PathProblem PathPrefix -> Prop
  | error (problem : PathProblem) : Alike (.error problem) (.error problem)
  | ok (parts : List String) {owner owner' : TypeInfo} (howner : owner.Alike owner') :
      Alike (.ok ⟨parts, owner⟩) (.ok ⟨parts, owner'⟩)

theorem ofNested_alike (hlook : table.LooksUpAlike other) {owner owner' : TypeInfo}
    (howner : owner.Alike owner') (nested : String) :
    Alike (ofNested table owner nested) (ofNested other owner' nested) := by
  unfold ofNested
  rw [howner.name]
  cases TargetPath.parse nested with
  | error e => exact Alike.error _
  | ok path =>
      dsimp only
      split
      · exact Alike.error _
      · rw [Walk.path_eq hlook howner]
        cases Walk.path other owner' nested path with
        | error problem => exact Alike.error _
        | ok reached =>
            obtain ⟨parts, type⟩ := reached
            dsimp only
            rcases none_or_some_of_rel (Walk.declared?_alike hlook type) with
              ⟨hnone, hnone'⟩ | ⟨element, element', helement, helement', halike⟩
            · rw [hnone, hnone']
              exact Alike.error _
            · rw [helement, helement']
              exact Alike.ok parts halike

theorem ofMarker_alike (hlook : table.LooksUpAlike other) (marker : MarkerSpec) :
    Alike (ofMarker table marker) (ofMarker other marker) := by
  unfold ofMarker
  rcases none_or_some_of_rel (hlook (simpleTypeName marker.targetType)) with
    ⟨hnone, hnone'⟩ | ⟨owner, owner', howner, howner', halike⟩
  · rw [hnone, hnone']
    exact Alike.error _
  · rw [howner, howner']
    cases marker.nestedPath with
    | none => exact Alike.ok [] halike
    | some nested => exact ofNested_alike hlook halike nested

theorem target_eq (hlook : table.LooksUpAlike other) (parts : List String)
    {owner owner' : TypeInfo} (howner : owner.Alike owner') (written : String) :
    target table ⟨parts, owner⟩ written = target other ⟨parts, owner'⟩ written := by
  unfold target
  rw [howner.name]
  cases TargetPath.parse written with
  | error e => rfl
  | ok path =>
      dsimp only
      rw [Walk.path_eq hlook howner]

end PathPrefix

/-!
# Resolved methods
-/

namespace Resolution

variable {table other : TypeTable} {source source' : TypeInfo}

theorem slotTarget_eq (hlook : table.LooksUpAlike other)
    {start start' : Except PathProblem PathPrefix} (hstart : PathPrefix.Alike start start')
    (slot : Slot) : slotTarget table start slot = slotTarget other start' slot := by
  cases hstart with
  | error problem => cases problem <;> rfl
  | ok parts howner =>
      unfold slotTarget
      dsimp only
      split
      · rfl
      · exact PathPrefix.target_eq hlook parts howner _

theorem prefixProblem?_eq {start start' : Except PathProblem PathPrefix}
    (hstart : PathPrefix.Alike start start') : prefixProblem? start = prefixProblem? start' := by
  cases hstart with
  | error problem => rfl
  | ok parts howner => rfl

theorem method_eq_of_alike (hlook : table.LooksUpAlike other) (hsource : source.Alike source')
    (config : GeneratorConfig) (marker : MarkerSpec) :
    method source table config marker = method source' other config marker := by
  have hprefix := PathPrefix.ofMarker_alike hlook marker
  have hbinding : binding source table config marker = binding source' other config marker := by
    funext place
    simp only [binding, slotTarget_eq hlook hprefix, hsource.name]
  have hfound : (table.get? (simpleTypeName marker.targetType)).isSome =
      (other.get? (simpleTypeName marker.targetType)).isSome := by
    rcases none_or_some_of_rel (hlook (simpleTypeName marker.targetType)) with
      ⟨hnone, hnone'⟩ | ⟨_, _, hsome, hsome', _⟩
    · rw [hnone, hnone']
    · rw [hsome, hsome']
      rfl
  simp only [method, hsource.slots_eq, hsource.takesPart_eq, hbinding, hfound,
    prefixProblem?_eq hprefix, hsource.name]

theorem resolve_methods_perm (hlook : table.LooksUpAlike other) (hsource : source.Alike source')
    (config : GeneratorConfig) :
    (resolve source table config).methods.Perm (resolve source' other config).methods := by
  have hmethod : method source table config = method source' other config :=
    funext (method_eq_of_alike hlook hsource config)
  unfold resolve
  rw [hmethod]
  exact hsource.markers.map _

theorem resolve_eq (hlook : table.LooksUpAlike other) (source : TypeInfo)
    (config : GeneratorConfig) : resolve source table config = resolve source other config := by
  have hmethod : method source table config = method source other config :=
    funext (method_eq_of_alike hlook (TypeInfo.Alike.refl source) config)
  rw [resolve, resolve, hmethod]

end Resolution

/-!
# Checked methods
-/

namespace ResolvedMethod

variable {table other : TypeTable} {source source' : TypeInfo}

theorem problems_eq_of_alike (hlook : table.LooksUpAlike other) (hsource : source.Alike source')
    (method : ResolvedMethod) : method.problems source table = method.problems source' other := by
  unfold problems
  congr 1
  rcases none_or_some_of_rel (hlook method.targetType) with
    ⟨hnone, hnone'⟩ | ⟨target, target', htarget, htarget', halike⟩
  · rw [hnone, hnone']
    rfl
  · rw [htarget, htarget']
    cases method.targetFound with
    | false => rfl
    | true =>
        simp only [Option.filter, if_true, extensibleProblems, ownerProblems, nameOwner?,
          halike.name, halike.extensible, halike.hasMemberNamed_eq, hsource.name,
          hsource.methods]

theorem diagnostics_eq_of_alike (hlook : table.LooksUpAlike other)
    (hsource : source.Alike source') :
    diagnostics source table = diagnostics source' other := by
  funext method
  rw [diagnostics, diagnostics, problems_eq_of_alike hlook hsource]

theorem accepted_eq_of_alike (hlook : table.LooksUpAlike other) (hsource : source.Alike source') :
    accepted source table = accepted source' other := by
  funext method
  rw [accepted, accepted, diagnostics_eq_of_alike hlook hsource]

end ResolvedMethod

namespace Validation

variable {table other : TypeTable} {source source' : TypeInfo}

theorem validate_methods_perm (hlook : table.LooksUpAlike other) (hsource : source.Alike source')
    {resolution resolution' : Resolution}
    (hresolution : resolution.methods.Perm resolution'.methods) :
    (validate source resolution table).methods.Perm
      (validate source' resolution' other).methods := by
  unfold validate
  rw [ResolvedMethod.accepted_eq_of_alike hlook hsource]
  exact (hresolution.filter _).map _

theorem validate_eq (hlook : table.LooksUpAlike other) (source : TypeInfo)
    (resolution : Resolution) :
    validate source resolution table = validate source resolution other := by
  have hsource := TypeInfo.Alike.refl source
  rw [validate, validate, ResolvedMethod.accepted_eq_of_alike hlook hsource,
    ResolvedMethod.diagnostics_eq_of_alike hlook hsource]

end Validation
end PartialUpdate
