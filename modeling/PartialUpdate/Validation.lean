import PartialUpdate.Identifier
import PartialUpdate.Resolution

/-!
# Validation

The rules that a method and its bindings keep.  Every rule is checked on every binding, so
that one pass reports all problems; a method with an error is dropped and no other method
is affected.
-/

namespace PartialUpdate

structure Validation where
  /-- The methods without errors, in the order of their markers. -/
  methods : List UpdateMethod
  diagnostics : List Diagnostic

namespace ResolvedMethod

/-- The type that already has a member of the method's name. -/
def nameOwner? (source target : TypeInfo) (method : ResolvedMethod) : Option String :=
  if target.hasMemberNamed method.methodName then some target.name
  else if !method.requiresExtensibleTarget && source.methods.contains method.methodName then
    some source.name
  else none

def nameProblems (method : ResolvedMethod) : List Problem :=
  if Name.isEmittable method.methodName then [] else [.invalidIdentifier method.methodName]

def prefixProblems (method : ResolvedMethod) : List Problem :=
  match method.prefixProblem with
  | some (.invalidNested path target) => [.invalidNestedProperty path target]
  | _ => []

def extensibleProblems (target : TypeInfo) (method : ResolvedMethod) : List Problem :=
  if method.requiresExtensibleTarget && !target.extensible then
    [.extensibleTargetMissing target.name method.methodName]
  else []

def ownerProblems (source target : TypeInfo) (method : ResolvedMethod) : List Problem :=
  match method.nameOwner? source target with
  | some owner => [.methodNameAlreadyExists method.methodName owner]
  | none => []

/-- Problems of the method itself; an unknown target type leaves the others unchecked. -/
def problems (source : TypeInfo) (table : TypeTable) (method : ResolvedMethod) : List Problem :=
  method.nameProblems ++
    match (table.get? method.targetType).filter (fun _ => method.targetFound) with
    | none => [.targetTypeNotFound method.targetType]
    | some target =>
        method.prefixProblems ++ method.extensibleProblems target
          ++ method.ownerProblems source target

end ResolvedMethod

namespace ResolvedBinding

def propertyProblems (binding : ResolvedBinding) : List Problem :=
  match binding.source with
  | .whole => []
  | .property name _ =>
      (if Name.isEmittable name then [] else [.invalidIdentifier name])
        ++ (if binding.spec.isSourceArray = some true then [.isSourceArrayNotApplicable] else [])

def handlingProblems (binding : ResolvedBinding) (target : ResolvedTarget) : List Problem :=
  let handling := binding.options.collectionHandling
  if handling = .set then []
  else if !target.type.isCollection then [.collectionHandlingNotApplicable target.path handling]
  else if target.type.isMap then
    [.collectionHandlingNotSupported target.path handling
      "map-valued fields are stored as sub-documents, not arrays"]
  else []

def ignoreEmptyProblems (binding : ResolvedBinding) (target : ResolvedTarget) : List Problem :=
  if binding.spec.ignoreEmpty.isSome && !target.type.isCollection && !target.type.isText then
    [.ignoreEmptyNotApplicable target.path]
  else []

def stringEmptyProblems (binding : ResolvedBinding) (target : ResolvedTarget) : List Problem :=
  if binding.spec.useStringEmpty.isSome && !target.type.isText then
    [.useStringEmptyNotApplicable target.path]
  else []

def ignoreNullProblems (binding : ResolvedBinding) (target : ResolvedTarget) : List Problem :=
  if binding.spec.ignoreNull.isSome && !binding.source.isNullable && !target.type.nullable then
    [.ignoreNullNotApplicable target.path]
  else []

def sequenceProblems (binding : ResolvedBinding) (target : ResolvedTarget) : List Problem :=
  if binding.options.collectionHandling = .set && binding.source.isSequence binding.options
      && !target.type.isCollection then
    [.propertyNotEnumerable target.path (binding.location.targetType.getD "")]
  else []

/-- The rules about options that depend on the field written. -/
def optionProblems (binding : ResolvedBinding) (target : ResolvedTarget) : List Problem :=
  binding.handlingProblems target ++ binding.ignoreEmptyProblems target
    ++ binding.stringEmptyProblems target ++ binding.ignoreNullProblems target
    ++ binding.sequenceProblems target

/-- A target that is missing for the whole method is reported once on the method. -/
def targetProblems (binding : ResolvedBinding) : List Problem :=
  match binding.target with
  | .ok target => binding.optionProblems target
  | .error .targetNameMissing => [.targetPropertyNameMissing]
  | .error (.propertyNotFound property target) => [.propertyNotFound property target]
  | .error (.invalidNested path target) => [.invalidNestedProperty path target]
  | .error .targetTypeMissing | .error .prefixInvalid => []

def problems (binding : ResolvedBinding) : List Problem :=
  binding.propertyProblems ++ binding.targetProblems

def diagnostics (binding : ResolvedBinding) : List Diagnostic :=
  binding.problems.map (fun problem => ⟨problem, binding.location⟩)

def toBinding? (binding : ResolvedBinding) : Option PropertyBinding :=
  match binding.target with
  | .error _ => none
  | .ok target =>
      some {
        order := binding.order
        source := binding.source
        target
        options := binding.options
        expression := binding.spec.expression
        location := binding.location }

end ResolvedBinding

namespace ResolvedMethod

def diagnostics (source : TypeInfo) (table : TypeTable) (method : ResolvedMethod) :
    List Diagnostic :=
  (method.problems source table).map (fun problem => ⟨problem, method.location⟩)
    ++ method.bindings.flatMap ResolvedBinding.diagnostics

def accepted (source : TypeInfo) (table : TypeTable) (method : ResolvedMethod) : Bool :=
  !(method.diagnostics source table).any Diagnostic.isError

def toUpdateMethod (method : ResolvedMethod) : UpdateMethod where
  sourceType := method.sourceType
  targetType := method.targetType
  methodName := method.methodName
  bindings := method.bindings.filterMap ResolvedBinding.toBinding?
  inherent := method.requiresExtensibleTarget
  location := method.location

end ResolvedMethod

namespace UnmatchedSpec

def diagnostic (spec : UnmatchedSpec) : Diagnostic :=
  ⟨.unknownMethod spec.methodName, spec.location⟩

end UnmatchedSpec

def validate (source : TypeInfo) (resolution : Resolution) (table : TypeTable) : Validation where
  methods :=
    (resolution.methods.filter (ResolvedMethod.accepted source table)).map
      ResolvedMethod.toUpdateMethod
  diagnostics :=
    resolution.unmatched.map UnmatchedSpec.diagnostic
      ++ resolution.methods.flatMap (ResolvedMethod.diagnostics source table)

end PartialUpdate
