import PartialUpdate.Proofs.Acceptance
import PartialUpdate.Proofs.Except
import PartialUpdate.Proofs.Validation
import Mathlib.Data.List.Nodup
import Mathlib.Data.List.Perm.Subperm

/-!
# Which methods a declaration takes part in

The specs on a source type, the specs on its fields, and the fields without one, in the order in
which they are declared.  Each method binds those that go to it, in that order and under their
places in it.  A spec that goes to no method is reported, unless it was meant for all methods of a
type that has none.
-/

namespace PartialUpdate

inductive DeclaredPiece
  | onType (spec : PropertySpec)
  | onField (member : MemberInfo) (spec : PropertySpec)
  | bare (member : MemberInfo)

namespace DeclaredPiece

def value : DeclaredPiece -> BindingSource
  | .onType _ => .whole
  | .onField member _ | .bare member => .property member.name member.type

def spec? : DeclaredPiece -> Option PropertySpec
  | .onType spec | .onField _ spec => some spec
  | .bare _ => none

def member? : DeclaredPiece -> Option String
  | .onType _ => none
  | .onField member _ | .bare member => some member.name

end DeclaredPiece

namespace TypeInfo

/-- The specs on the type, and then field by field its specs, or the field if it has none. -/
def pieces (source : TypeInfo) : List DeclaredPiece :=
  source.typeSpecs.map DeclaredPiece.onType ++ source.members.flatMap (fun member =>
    match member.specs with
    | [] => [.bare member]
    | specs => specs.map (DeclaredPiece.onField member))

/-- A spec goes to the method that it names.  Without a name it goes to the method of the only
marker, or to the default method if there is not exactly one. -/
def GoesTo (source : TypeInfo) (config : GeneratorConfig) (spec : PropertySpec)
    (method : String) : Prop :=
  match spec.methodName with
  | some named => named = method
  | none =>
      (exists only, source.markers = [only] ∧ config.markerMethod only = method)
        ∨ (source.markers.length ≠ 1 ∧ config.defaultMethod = method)

end TypeInfo

def DeclaredPiece.TakesPart (source : TypeInfo) (config : GeneratorConfig) (marker : MarkerSpec) :
    DeclaredPiece -> Prop
  | .onType spec | .onField _ spec =>
      config.defaults.appliesToAll spec = true
        ∨ source.GoesTo config spec (config.markerMethod marker)
  | .bare member =>
      config.defaults.ignoresUnmarked marker = false
        ∧ member.isPublic = true ∧ member.excluded = false ∧ member.skipped = false

/-- A binding of a piece; a bare field is bound as by a spec that says nothing. -/
structure ResolvedBinding.Binds (source : TypeInfo) (config : GeneratorConfig)
    (marker : MarkerSpec) (binding : ResolvedBinding) (piece : DeclaredPiece) : Prop where
  value : binding.source = piece.value
  spec : binding.spec = piece.spec?.getD {}
  options : binding.options = config.defaults.effective binding.spec
  location : binding.location =
    ((Location.source source.name).withMember piece.member?).withMethod
      (simpleTypeName marker.targetType) (config.markerMethod marker)

/-- The method of a marker, with the pieces that take part and no others, each under its place
among all pieces. -/
structure ResolvedMethod.RoutedBy (source : TypeInfo) (config : GeneratorConfig)
    (marker : MarkerSpec) (method : ResolvedMethod) : Prop where
  name : method.methodName = config.markerMethod marker
  target : method.targetType = simpleTypeName marker.targetType
  ascending : method.bindings.Pairwise (fun a b => a.order < b.order)
  binds : forall binding, binding ∈ method.bindings ->
    exists piece, source.pieces[binding.order]? = some piece
      ∧ piece.TakesPart source config marker ∧ binding.Binds source config marker piece
  bound : forall order piece, source.pieces[order]? = some piece ->
    piece.TakesPart source config marker ->
      exists binding, binding ∈ method.bindings ∧ binding.order = order

/-!
# Pieces and slots
-/

namespace DeclaredPiece

def slot : DeclaredPiece -> Slot
  | .onType spec => ⟨.whole, some spec, false⟩
  | .onField member spec => ⟨.property member.name member.type, some spec, false⟩
  | .bare member =>
      ⟨.property member.name member.type, none,
        member.isPublic && !member.excluded && !member.skipped⟩

theorem slot_source (piece : DeclaredPiece) : piece.slot.source = piece.value := by
  cases piece <;> rfl

theorem slot_spec (piece : DeclaredPiece) : piece.slot.spec = piece.spec? := by
  cases piece <;> rfl

theorem slot_member? (piece : DeclaredPiece) : piece.slot.member? = piece.member? := by
  cases piece <;> rfl

end DeclaredPiece

namespace TypeInfo

variable {source : TypeInfo} {config : GeneratorConfig}

theorem slots_eq_map_pieces (source : TypeInfo) :
    Slot.ofSource source = source.pieces.map DeclaredPiece.slot := by
  rw [Slot.ofSource, pieces, List.map_append, List.map_map, List.map_flatMap]
  congr 2
  funext member
  unfold Slot.ofMember
  cases hspecs : member.specs with
  | nil => rfl
  | cons spec specs =>
      rw [List.map_map]
      rfl

theorem goesTo_iff {spec : PropertySpec} {method : String} :
    source.GoesTo config spec method ↔
      spec.methodName.getD (source.fallbackMethod config) = method := by
  unfold GoesTo fallbackMethod
  cases spec.methodName with
  | some named => rfl
  | none =>
      cases hmarkers : source.markers with
      | nil => simp
      | cons marker markers =>
          cases markers with
          | nil => simp
          | cons other markers => simp

theorem mem_declaredMethods_iff {method : String} :
    method ∈ source.declaredMethods config ↔
      exists marker, marker ∈ source.markers ∧ config.markerMethod marker = method := by
  rw [declaredMethods, List.mem_eraseDups, List.mem_map]

theorem routes_iff {marker : MarkerSpec} (hmarker : marker ∈ source.markers)
    {spec : PropertySpec} :
    source.routes config spec (config.markerMethod marker) = true ↔
      config.defaults.appliesToAll spec = true
        ∨ source.GoesTo config spec (config.markerMethod marker) := by
  have hdeclared : config.markerMethod marker ∈ source.declaredMethods config :=
    mem_declaredMethods_iff.mpr ⟨marker, hmarker, rfl⟩
  rw [goesTo_iff]
  unfold routes routedMethod?
  cases config.defaults.appliesToAll spec with
  | true => simpa using hdeclared
  | false => simp

theorem takesPart_slot_iff {marker : MarkerSpec} (hmarker : marker ∈ source.markers)
    (piece : DeclaredPiece) :
    source.takesPart config marker piece.slot = true ↔ piece.TakesPart source config marker := by
  cases piece with
  | onType spec => exact routes_iff hmarker
  | onField member spec => exact routes_iff hmarker
  | bare member =>
      simp [takesPart, DeclaredPiece.slot, DeclaredPiece.TakesPart, and_comm, and_left_comm]

end TypeInfo

namespace Resolution

variable {source : TypeInfo} {table : TypeTable} {config : GeneratorConfig} {marker : MarkerSpec}

theorem mem_bindings_iff {resolved : ResolvedBinding} :
    resolved ∈ (method source table config marker).bindings ↔
      exists order piece, source.pieces[order]? = some piece
        ∧ source.takesPart config marker piece.slot = true
        ∧ binding source table config marker (piece.slot, order) = resolved := by
  unfold method
  rw [List.mem_map]
  constructor
  · rintro ⟨⟨slot, order⟩, hplace, hbinding⟩
    rcases List.mem_filter.mp hplace with ⟨hslot, htakes⟩
    have hslot := List.mem_zipIdx_iff_getElem?.mp hslot
    rw [TypeInfo.slots_eq_map_pieces, List.getElem?_map, Option.map_eq_some_iff] at hslot
    rcases hslot with ⟨piece, hpiece, rfl⟩
    exact ⟨order, piece, hpiece, htakes, hbinding⟩
  · rintro ⟨order, piece, hpiece, htakes, hbinding⟩
    refine ⟨(piece.slot, order), List.mem_filter.mpr ⟨?_, htakes⟩, hbinding⟩
    apply List.mem_zipIdx_iff_getElem?.mpr
    rw [TypeInfo.slots_eq_map_pieces, List.getElem?_map, hpiece]
    rfl

theorem binding_binds (piece : DeclaredPiece) (order : Nat) :
    (binding source table config marker (piece.slot, order)).Binds source config marker piece where
  value := piece.slot_source
  spec := congrArg (fun spec => spec.getD {}) piece.slot_spec
  options := rfl
  location := by
    rw [← piece.slot_member?]
    rfl

theorem method_routedBy (hmarker : marker ∈ source.markers) :
    (method source table config marker).RoutedBy source config marker where
  name := rfl
  target := rfl
  ascending := (method_isPlaced source table config marker).ascending
  binds := by
    intro resolved hmem
    rcases mem_bindings_iff.mp hmem with ⟨order, piece, hpiece, htakes, rfl⟩
    exact ⟨piece, hpiece, (TypeInfo.takesPart_slot_iff hmarker piece).mp htakes,
      binding_binds piece order⟩
  bound := by
    intro order piece hpiece htakes
    have htakes := (TypeInfo.takesPart_slot_iff hmarker piece).mpr htakes
    exact ⟨_, mem_bindings_iff.mpr ⟨order, piece, hpiece, htakes, rfl⟩, rfl⟩

/-- A resolution has one method for each marker, in their order, and a method binds exactly the
pieces that take part in it, in the order of their declaration and each once. -/
theorem resolve_routedBy (source : TypeInfo) (table : TypeTable) (config : GeneratorConfig) :
    List.Forall₂ (ResolvedMethod.RoutedBy source config) source.markers
      (resolve source table config).methods := by
  rw [resolve, List.forall₂_map_right_iff, List.forall₂_same]
  intro marker hmarker
  exact method_routedBy hmarker

end Resolution

/-!
# Specs that take part in no method
-/

namespace TypeInfo

def explicitPieces (source : TypeInfo) : List (DeclaredPiece × Nat) :=
  source.pieces.zipIdx.filter (fun place => place.1.spec?.isSome)

end TypeInfo

def DeclaredPiece.MeantForAll (config : GeneratorConfig) (piece : DeclaredPiece) : Prop :=
  exists spec, piece.spec? = some spec ∧ config.defaults.appliesToAll spec = true

/-- Whether a spec is meant for the methods of a type that has none. -/
def TypeInfo.Overlooks (source : TypeInfo) (config : GeneratorConfig)
    (place : DeclaredPiece × Nat) : Prop :=
  source.markers = [] ∧ place.1.MeantForAll config

theorem DeclaredPiece.takesPart_iff_of_spec {source : TypeInfo} {config : GeneratorConfig}
    {marker : MarkerSpec} {piece : DeclaredPiece} {spec : PropertySpec}
    (hspec : piece.spec? = some spec) :
    piece.TakesPart source config marker ↔
      config.defaults.appliesToAll spec = true
        ∨ source.GoesTo config spec (config.markerMethod marker) := by
  cases piece <;> cases hspec <;> rfl

/-- An entry is about a spec if it has the location of the spec and the method it goes to. -/
structure UnmatchedSpec.IsAbout (source : TypeInfo) (config : GeneratorConfig)
    (place : DeclaredPiece × Nat) (entry : UnmatchedSpec) : Prop where
  location : entry.location = (Location.source source.name).withMember place.1.member?
  method : exists spec, place.1.spec? = some spec ∧ source.GoesTo config spec entry.methodName

namespace Resolution

def TakesUp (resolution : Resolution) (place : DeclaredPiece × Nat) : Prop :=
  exists method, method ∈ resolution.methods ∧ exists binding, binding ∈ method.bindings
    ∧ binding.order = place.2 ∧ some binding.spec = place.1.spec?

/-- Each spec is either bound or has one entry among the unmatched ones. -/
def AccountsFor (source : TypeInfo) (config : GeneratorConfig) (resolution : Resolution) : Prop :=
  exists left, left.Sublist source.explicitPieces
    ∧ List.Forall₂ (UnmatchedSpec.IsAbout source config) left resolution.unmatched
    ∧ forall place, place ∈ source.explicitPieces ->
        (place ∈ left ↔ ¬ resolution.TakesUp place)

end Resolution

namespace TypeInfo

variable {source : TypeInfo} {config : GeneratorConfig}

theorem mem_explicitPieces_iff {place : DeclaredPiece × Nat} :
    place ∈ source.explicitPieces ↔
      source.pieces[place.2]? = some place.1 ∧ exists spec, place.1.spec? = some spec := by
  rw [explicitPieces, List.mem_filter, List.mem_zipIdx_iff_getElem?, Option.isSome_iff_exists]

theorem nodup_explicitPieces (source : TypeInfo) : source.explicitPieces.Nodup := by
  apply List.Nodup.filter
  apply List.Nodup.of_map Prod.snd
  rw [List.zipIdx_map_snd]
  exact List.nodup_range'

theorem routedMethod?_eq_some_iff {spec : PropertySpec} {method : String} :
    source.routedMethod? config spec = some method ↔
      config.defaults.appliesToAll spec = false ∧ source.GoesTo config spec method := by
  rw [goesTo_iff, routedMethod?]
  cases config.defaults.appliesToAll spec with
  | true => simp
  | false => simp

def unmatchedAt? (source : TypeInfo) (config : GeneratorConfig) (place : DeclaredPiece × Nat) :
    Option UnmatchedSpec :=
  source.unmatched? config place.1.slot

theorem unmatchedAt?_eq_some_iff {place : DeclaredPiece × Nat} {entry : UnmatchedSpec} :
    source.unmatchedAt? config place = some entry ↔
      entry.location = (Location.source source.name).withMember place.1.member?
        ∧ exists spec, place.1.spec? = some spec ∧ config.defaults.appliesToAll spec = false
          ∧ source.GoesTo config spec entry.methodName
          ∧ entry.methodName ∉ source.declaredMethods config := by
  simp only [unmatchedAt?, unmatched?, Option.bind_eq_bind, Option.bind_eq_some_iff,
    place.1.slot_spec, place.1.slot_member?, routedMethod?_eq_some_iff, List.contains_iff_mem,
    Option.ite_none_left_eq_some, Option.some.injEq]
  constructor
  · rintro ⟨spec, hspec, method, ⟨hall, hgoes⟩, hundeclared, rfl⟩
    exact ⟨rfl, spec, hspec, hall, hgoes, hundeclared⟩
  · rintro ⟨hlocation, spec, hspec, hall, hgoes, hundeclared⟩
    exact ⟨spec, hspec, entry.methodName, ⟨hall, hgoes⟩, hundeclared, by rw [← hlocation]⟩

end TypeInfo

namespace Resolution

variable {source : TypeInfo} {table : TypeTable} {config : GeneratorConfig}
  {place : DeclaredPiece × Nat}

theorem takesUp_iff (hmem : place ∈ source.explicitPieces) :
    (resolve source table config).TakesUp place ↔
      exists marker, marker ∈ source.markers ∧ place.1.TakesPart source config marker := by
  rcases TypeInfo.mem_explicitPieces_iff.mp hmem with ⟨hplace, spec, hspec⟩
  constructor
  · rintro ⟨resolved, hresolved, binding, hbinding, horder, _hspec⟩
    rcases List.mem_map.mp hresolved with ⟨marker, hmarker, rfl⟩
    rcases (method_routedBy hmarker).binds binding hbinding with ⟨piece, hpiece, htakes, _hbinds⟩
    rw [horder, hplace] at hpiece
    cases hpiece
    exact ⟨marker, hmarker, htakes⟩
  · rintro ⟨marker, hmarker, htakes⟩
    have hmethod : (method source table config marker).RoutedBy source config marker :=
      method_routedBy hmarker
    rcases hmethod.bound place.2 place.1 hplace htakes with ⟨binding, hbinding, horder⟩
    rcases hmethod.binds binding hbinding with ⟨piece, hpiece, _htakes, hbinds⟩
    rw [horder, hplace] at hpiece
    cases hpiece
    refine ⟨_, List.mem_map_of_mem hmarker, binding, hbinding, horder, ?_⟩
    rw [hbinds.spec, hspec]
    rfl

/-- A spec for all methods is bound, unless there are none. -/
theorem overlooks_iff (hmem : place ∈ source.explicitPieces) :
    source.Overlooks config place ↔
      ¬ (resolve source table config).TakesUp place ∧ place.1.MeantForAll config := by
  rw [takesUp_iff hmem]
  constructor
  · rintro ⟨hmarkers, hall⟩
    refine ⟨?_, hall⟩
    rintro ⟨marker, hmarker, _htakes⟩
    rw [hmarkers] at hmarker
    cases hmarker
  · rintro ⟨hidle, spec, hspec, hall⟩
    refine ⟨List.eq_nil_iff_forall_not_mem.mpr ?_, spec, hspec, hall⟩
    intro marker hmarker
    exact hidle ⟨marker, hmarker, (DeclaredPiece.takesPart_iff_of_spec hspec).mpr (.inl hall)⟩

theorem isSome_unmatchedAt?_iff (hmem : place ∈ source.explicitPieces) :
    (source.unmatchedAt? config place).isSome = true ↔
      ¬ (resolve source table config).TakesUp place ∧ ¬ source.Overlooks config place := by
  rcases (TypeInfo.mem_explicitPieces_iff.mp hmem).2 with ⟨spec, hspec⟩
  rw [Option.isSome_iff_exists]
  constructor
  · rintro ⟨entry, hentry⟩
    rcases TypeInfo.unmatchedAt?_eq_some_iff.mp hentry with
      ⟨_hlocation, found, hfound, hone, hgoes, hundeclared⟩
    cases hspec.symm.trans hfound
    constructor
    · intro htakesUp
      rcases (takesUp_iff hmem).mp htakesUp with ⟨marker, hmarker, htakes⟩
      rcases (DeclaredPiece.takesPart_iff_of_spec hspec).mp htakes with hall | hmethod
      · cases hone.symm.trans hall
      · rw [TypeInfo.goesTo_iff] at hgoes hmethod
        rw [← hgoes, hmethod] at hundeclared
        exact hundeclared (TypeInfo.mem_declaredMethods_iff.mpr ⟨marker, hmarker, rfl⟩)
    · rintro ⟨_hmarkers, found, hfound, hall⟩
      cases hspec.symm.trans hfound
      cases hone.symm.trans hall
  · rintro ⟨hidle, hkept⟩
    refine ⟨⟨spec.methodName.getD (source.fallbackMethod config), _⟩,
      TypeInfo.unmatchedAt?_eq_some_iff.mpr
        ⟨rfl, spec, hspec, ?_, TypeInfo.goesTo_iff.mpr rfl, ?_⟩⟩
    · rw [Bool.eq_false_iff]
      intro hall
      exact hkept ((overlooks_iff hmem).mpr ⟨hidle, spec, hspec, hall⟩)
    · intro hdeclared
      rcases TypeInfo.mem_declaredMethods_iff.mp hdeclared with ⟨marker, hmarker, hmethod⟩
      have hgoes : source.GoesTo config spec (config.markerMethod marker) :=
        TypeInfo.goesTo_iff.mpr hmethod.symm
      exact hidle ((takesUp_iff hmem).mpr
        ⟨marker, hmarker, (DeclaredPiece.takesPart_iff_of_spec hspec).mpr (.inr hgoes)⟩)

theorem unmatched_eq_filterMap :
    (resolve source table config).unmatched =
      source.explicitPieces.filterMap (source.unmatchedAt? config) := by
  have hplaces : source.pieces = source.pieces.zipIdx.map Prod.fst :=
    (List.zipIdx_map_fst 0 source.pieces).symm
  rw [TypeInfo.explicitPieces, List.filterMap_filter]
  change (Slot.ofSource source).filterMap (source.unmatched? config) = _
  rw [TypeInfo.slots_eq_map_pieces, List.filterMap_map]
  conv_lhs => rw [hplaces]
  rw [List.filterMap_map]
  apply List.filterMap_congr
  intro place _hplace
  cases hspec : place.1.spec? with
  | some spec => rfl
  | none => simp [TypeInfo.unmatched?, place.1.slot_spec, hspec]

theorem forall₂_isAbout (source : TypeInfo) (table : TypeTable) (config : GeneratorConfig) :
    List.Forall₂ (UnmatchedSpec.IsAbout source config)
      (source.explicitPieces.filter (fun place => (source.unmatchedAt? config place).isSome))
      (resolve source table config).unmatched := by
  have hunmatched : (resolve source table config).unmatched =
      (source.explicitPieces.filter (fun place =>
        (source.unmatchedAt? config place).isSome)).filterMap (source.unmatchedAt? config) := by
    rw [unmatched_eq_filterMap, List.filterMap_filter]
    congr 1
    funext place
    cases source.unmatchedAt? config place with
    | none => rfl
    | some entry => rfl
  rw [hunmatched]
  refine (forall₂_filterMap ?_).imp ?_
  · intro place hplace
    exact Option.isSome_iff_exists.mp (List.mem_filter.mp hplace).2
  · intro place entry hentry
    rcases TypeInfo.unmatchedAt?_eq_some_iff.mp hentry with
      ⟨hlocation, spec, hspec, _hone, hgoes, _hundeclared⟩
    exact ⟨hlocation, spec, hspec, hgoes⟩

theorem accountsFor_iff :
    (resolve source table config).AccountsFor source config ↔
      forall place, place ∈ source.explicitPieces -> ¬ source.Overlooks config place := by
  constructor
  · rintro ⟨left, hsublist, hentries, hleft⟩ place hplace hoverlooks
    have hidle : forall other, other ∈ source.explicitPieces ->
        ¬ (resolve source table config).TakesUp other := by
      rintro other _hother ⟨method, hmethod, _hbinding⟩
      rw [resolve, hoverlooks.1] at hmethod
      cases hmethod
    have hevery : left = source.explicitPieces := by
      apply hsublist.eq_of_length_le
      apply (source.nodup_explicitPieces.subperm ?_).length_le
      exact fun other hother => (hleft other hother).mpr (hidle other hother)
    have hlength := hentries.length_eq
    rw [hevery, unmatched_eq_filterMap, eq_comm, List.filterMap_length_eq_length] at hlength
    have hreported : ¬ (resolve source table config).TakesUp place
        ∧ ¬ source.Overlooks config place :=
      (isSome_unmatchedAt?_iff hplace).mp (hlength place hplace)
    exact hreported.2 hoverlooks
  · intro hspecs
    refine ⟨_, List.filter_sublist, forall₂_isAbout source table config, ?_⟩
    intro place hplace
    rw [List.mem_filter, isSome_unmatchedAt?_iff hplace]
    exact ⟨fun h => h.2.1, fun hidle => ⟨hplace, hidle, hspecs place hplace⟩⟩

end Resolution

namespace Validation

variable {source : TypeInfo} {table : TypeTable} {resolution : Resolution}

theorem filter_code_diagnostics :
    (validate source resolution table).diagnostics.filter
        (fun diagnostic => diagnostic.problem.code == "UPD017") =
      resolution.unmatched.map UnmatchedSpec.diagnostic := by
  have hunknown : forall problem : Problem, problem.code = "UPD017" ->
      exists name, problem = .unknownMethod name := by
    intro problem hcode
    cases problem <;> simp [Problem.code] at hcode ⊢
  have hunmatched : (resolution.unmatched.map UnmatchedSpec.diagnostic).filter
      (fun diagnostic => diagnostic.problem.code == "UPD017") =
        resolution.unmatched.map UnmatchedSpec.diagnostic := by
    rw [List.filter_eq_self]
    intro diagnostic hmem
    rcases List.mem_map.mp hmem with ⟨entry, _hentry, rfl⟩
    rfl
  have hmethods : (resolution.methods.flatMap (ResolvedMethod.diagnostics source table)).filter
      (fun diagnostic => diagnostic.problem.code == "UPD017") = [] := by
    rw [List.filter_eq_nil_iff]
    intro diagnostic hmem hcode
    rcases List.mem_flatMap.mp hmem with ⟨method, _hmethod, hreported⟩
    rcases hunknown diagnostic.problem (beq_iff_eq.mp hcode) with ⟨name, hname⟩
    exact ResolvedMethod.problem_ne_unknownMethod hreported name hname
  rw [validate, List.filter_append, hunmatched, hmethods, List.append_nil]

/-- A spec is bound, or it has one entry and with it one warning, or it is meant for the methods
of a type that has none; no two of these hold, and every warning comes from an entry.  So the
specs are all accounted for exactly when none is meant for the methods of a type without any. -/
theorem validate_specs (source : TypeInfo) (table : TypeTable) (config : GeneratorConfig) :
    (exists left, left.Sublist source.explicitPieces
      ∧ List.Forall₂ (UnmatchedSpec.IsAbout source config) left
          (resolve source table config).unmatched
      ∧ forall place, place ∈ source.explicitPieces ->
          (place ∈ left ↔ ¬ (resolve source table config).TakesUp place
            ∧ ¬ source.Overlooks config place)
          ∧ (source.Overlooks config place -> ¬ (resolve source table config).TakesUp place))
    ∧ ((resolve source table config).AccountsFor source config ↔
        forall place, place ∈ source.explicitPieces -> ¬ source.Overlooks config place)
    ∧ (validate source (resolve source table config) table).diagnostics.filter
          (fun diagnostic => diagnostic.problem.code == "UPD017") =
        (resolve source table config).unmatched.map
          (fun entry => ⟨.unknownMethod entry.methodName, entry.location⟩) := by
  refine ⟨⟨_, List.filter_sublist, Resolution.forall₂_isAbout source table config, ?_⟩,
    Resolution.accountsFor_iff, filter_code_diagnostics⟩
  intro place hplace
  rw [List.mem_filter, Resolution.isSome_unmatchedAt?_iff hplace]
  constructor
  · exact ⟨And.right, fun hleft => ⟨hplace, hleft⟩⟩
  · exact fun hoverlooks => ((Resolution.overlooks_iff hplace).mp hoverlooks).1

/-- Its only spec is meant for all methods, and there are none. -/
def unmarkedSource : TypeInfo where
  name := "Patch"
  members :=
    [{ MemberInfo.plain "age" .text with
       specs := [{ methodName := some "to_rename", applyToAllMethods := some true }] }]

theorem not_accountsFor_unmarkedSource :
    unmarkedSource.isSource = true
      ∧ ¬ (resolve unmarkedSource ⟨[unmarkedSource]⟩ {}).AccountsFor unmarkedSource {}
      ∧ (validate unmarkedSource (resolve unmarkedSource ⟨[unmarkedSource]⟩ {})
          ⟨[unmarkedSource]⟩).diagnostics = [] := by
  refine ⟨rfl, ?_, rfl⟩
  rw [Resolution.accountsFor_iff]
  intro hnone
  exact hnone (_, 0) List.mem_cons_self ⟨rfl, _, rfl, rfl⟩

end Validation
end PartialUpdate
