import PartialUpdate.Descriptor
import PartialUpdate.TargetPath

/-!
# Resolution

For one source type: which declarations take part in which of its methods, and where in the
target each of them leads.  Nothing is rejected here; what goes wrong is kept beside the
binding or the method that it concerns.
-/

namespace PartialUpdate

inductive PathProblem
  /-- A spec on the type as a whole names no target. -/
  | targetNameMissing
  /-- The last step names no member of the type it is taken in. -/
  | propertyNotFound (property target : String)
  /-- An earlier step fails, or an index stands on what is no sequence. -/
  | invalidNested (path target : String)
  | targetTypeMissing
  | prefixInvalid
  deriving DecidableEq

structure ResolvedBinding where
  order : Nat
  source : BindingSource
  spec : PropertySpec
  options : EffectiveOptions
  target : Except PathProblem ResolvedTarget
  location : Location

structure ResolvedMethod where
  sourceType : String
  targetType : String
  methodName : String
  requiresExtensibleTarget : Bool
  targetFound : Bool
  prefixProblem : Option PathProblem
  bindings : List ResolvedBinding
  location : Location

/-- A spec that names a method which no marker declares. -/
structure UnmatchedSpec where
  methodName : String
  location : Location
  deriving DecidableEq

structure Resolution where
  methods : List ResolvedMethod
  unmatched : List UnmatchedSpec

/-!
# Walking a path

A step enters a member, and an index enters the elements of a sequence.  All steps but the
last must end on a declared type.
-/

namespace Walk

def stepType? (type : TypeRef) : Option PathIndex -> Option TypeRef
  | none => some type
  | some _ => type.element?

def declared? (table : TypeTable) (type : TypeRef) : Option TypeInfo :=
  type.namedType?.bind table.get?

/-- The parts of the stored path and the type at its end. -/
def run (table : TypeTable) (invalid : PathProblem) :
    TypeInfo -> List PathSegment -> Except PathProblem (List String × TypeRef)
  | _, [] => .error invalid
  | current, segment :: rest =>
      match current.member? segment.member with
      | none =>
          if rest.isEmpty then .error (.propertyNotFound segment.member current.name)
          else .error invalid
      | some member =>
          match stepType? member.type segment.index with
          | none => .error invalid
          | some type =>
              let parts := member.storedName :: segment.indexSteps
              if rest.isEmpty then .ok (parts, type)
              else
                match declared? table type with
                | none => .error invalid
                | some next => do
                    let (more, last) ← run table invalid next rest
                    return (parts ++ more, last)

def path (table : TypeTable) (owner : TypeInfo) (written : String) (path : TargetPath) :
    Except PathProblem (List String × TypeRef) :=
  run table (.invalidNested written owner.name) owner path.segments

end Walk

/-- Where the paths of a marker start: the parts so far, and the type that they lead to. -/
structure PathPrefix where
  parts : List String
  owner : TypeInfo

namespace PathPrefix

/-- The prefix must end on an element of a sequence of a declared type. -/
def ofNested (table : TypeTable) (owner : TypeInfo) (nested : String) :
    Except PathProblem PathPrefix :=
  let invalid := PathProblem.invalidNested nested owner.name
  match TargetPath.parse nested with
  | .error _ => .error invalid
  | .ok path =>
      if !path.endsWithIndex then .error invalid
      else
        match Walk.path table owner nested path with
        | .error _ => .error invalid
        | .ok (parts, type) =>
            match Walk.declared? table type with
            | none => .error invalid
            | some element => .ok ⟨parts, element⟩

def ofMarker (table : TypeTable) (marker : MarkerSpec) : Except PathProblem PathPrefix :=
  match table.get? (simpleTypeName marker.targetType), marker.nestedPath with
  | none, _ => .error .targetTypeMissing
  | some owner, none => .ok ⟨[], owner⟩
  | some owner, some nested => ofNested table owner nested

def target (table : TypeTable) (start : PathPrefix) (written : String) :
    Except PathProblem ResolvedTarget :=
  match TargetPath.parse written with
  | .error _ => .error (.propertyNotFound written start.owner.name)
  | .ok path => do
      let (parts, type) ← Walk.path table start.owner written path
      return ⟨".".intercalate (start.parts ++ parts), type⟩

end PathPrefix

/-!
# Slots

The declarations of a source type in order: the specs on the type, and then for each member
its specs, or the member itself when it has none.  The place of a slot is the order number
of its bindings.
-/

structure Slot where
  source : BindingSource
  /-- The spec, unless the slot is a member without one. -/
  spec : Option PropertySpec
  /-- Whether a member without a spec takes part. -/
  offered : Bool

namespace Slot

def ofTypeSpec (spec : PropertySpec) : Slot := ⟨.whole, some spec, false⟩

def ofMember (member : MemberInfo) : List Slot :=
  let source := BindingSource.property member.name member.type
  if member.specs.isEmpty then
    [⟨source, none, member.isPublic && !member.excluded && !member.skipped⟩]
  else member.specs.map (fun spec => ⟨source, some spec, false⟩)

def ofSource (source : TypeInfo) : List Slot :=
  source.typeSpecs.map ofTypeSpec ++ source.members.flatMap ofMember

def member? (slot : Slot) : Option String := slot.source.propertyName?

end Slot

/-!
# Methods of a source
-/

namespace TypeInfo

def declaredMethods (source : TypeInfo) (config : GeneratorConfig) : List String :=
  (source.markers.map config.markerMethod).eraseDups

/-- The method of a spec that names none: the only marker's, or the default method. -/
def fallbackMethod (source : TypeInfo) (config : GeneratorConfig) : String :=
  match source.markers with
  | [only] => config.markerMethod only
  | _ => config.defaultMethod

/-- The method that a spec names, unless it belongs to all of them. -/
def routedMethod? (source : TypeInfo) (config : GeneratorConfig) (spec : PropertySpec) :
    Option String :=
  if config.defaults.appliesToAll spec then none
  else some (spec.methodName.getD (source.fallbackMethod config))

def routes (source : TypeInfo) (config : GeneratorConfig) (spec : PropertySpec)
    (method : String) : Bool :=
  match source.routedMethod? config spec with
  | none => (source.declaredMethods config).contains method
  | some named => named == method

def unmatched? (source : TypeInfo) (config : GeneratorConfig) (slot : Slot) :
    Option UnmatchedSpec := do
  let spec ← slot.spec
  let named ← source.routedMethod? config spec
  if (source.declaredMethods config).contains named then none
  else some ⟨named, (Location.source source.name).withMember slot.member?⟩

def takesPart (source : TypeInfo) (config : GeneratorConfig) (marker : MarkerSpec)
    (slot : Slot) : Bool :=
  match slot.spec with
  | some spec => source.routes config spec (config.markerMethod marker)
  | none => slot.offered && !config.defaults.ignoresUnmarked marker

end TypeInfo

namespace Resolution

def slotTarget (table : TypeTable) (start : Except PathProblem PathPrefix) (slot : Slot) :
    Except PathProblem ResolvedTarget :=
  match start with
  | .error .targetTypeMissing => .error .targetTypeMissing
  | .error _ => .error .prefixInvalid
  | .ok start =>
      match (slot.spec.bind PropertySpec.targetName).or slot.member? with
      | none => .error .targetNameMissing
      | some written => start.target table written

def binding (source : TypeInfo) (table : TypeTable) (config : GeneratorConfig)
    (marker : MarkerSpec) (place : Slot × Nat) : ResolvedBinding :=
  let (slot, order) := place
  let spec := slot.spec.getD {}
  { order
    source := slot.source
    spec
    options := config.defaults.effective spec
    target := slotTarget table (PathPrefix.ofMarker table marker) slot
    location :=
      ((Location.source source.name).withMember slot.member?).withMethod
        (simpleTypeName marker.targetType) (config.markerMethod marker) }

def prefixProblem? : Except PathProblem PathPrefix -> Option PathProblem
  | .error .targetTypeMissing => none
  | .error problem => some problem
  | .ok _ => none

def method (source : TypeInfo) (table : TypeTable) (config : GeneratorConfig)
    (marker : MarkerSpec) : ResolvedMethod :=
  let targetType := simpleTypeName marker.targetType
  let methodName := config.markerMethod marker
  let taking := (Slot.ofSource source).zipIdx.filter
    (fun place => source.takesPart config marker place.1)
  { sourceType := source.name
    targetType
    methodName
    requiresExtensibleTarget := config.defaults.requiresExtensible marker
    targetFound := (table.get? targetType).isSome
    prefixProblem := prefixProblem? (PathPrefix.ofMarker table marker)
    bindings := taking.map (binding source table config marker)
    location := (Location.source source.name).withMethod targetType methodName }

end Resolution

/-- One method for each marker, in the order of the markers. -/
def resolve (source : TypeInfo) (table : TypeTable) (config : GeneratorConfig) : Resolution where
  methods := source.markers.map (Resolution.method source table config)
  unmatched := (Slot.ofSource source).filterMap (source.unmatched? config)

end PartialUpdate
