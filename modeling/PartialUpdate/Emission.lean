import PartialUpdate.Aggregation
import PartialUpdate.Emission.Printing
import PartialUpdate.Syntax.Grammar

/-!
# Emission

Update methods become generated code.  A method that cannot be written is left out and
reported; a trait that cannot be written takes all of its methods with it.  A name that
passes for an identifier and is none stops the emission.
-/

namespace PartialUpdate

structure Emission where
  code : GeneratedCode
  diagnostics : List Diagnostic

inductive EmissionProblem
  | reported (diagnostic : Diagnostic)
  /-- The name passes for an identifier, but no identifier can be made of it. -/
  | unwritable (name : String)

abbrev Emitted := Except EmissionProblem

namespace Emission

def identifier (name : String) (location : Location) : Emitted Identifier :=
  match Identifier.ofName name with
  | .ok identifier => .ok identifier
  | .error .rejected => .error (.reported ⟨.invalidIdentifier name, location⟩)
  | .error .unwritable => .error (.unwritable name)

/-!
# Calls
-/

/-- Whether the elements of the value are written one by one. -/
def takesElements (binding : PropertyBinding) : Bool :=
  binding.source.isSequence binding.options && binding.options.collectionHandling != .set

def leavesOutEmpty (options : EffectiveOptions) (type : TypeRef) : Bool :=
  options.ignoreEmpty && (type.isCollection || (type.isText && options.useStringEmpty))

def leavesOutAbsent (options : EffectiveOptions) (type : TypeRef) : Bool :=
  type.nullable && (options.ignoreNull || options.collectionHandling != .set)

def guards (options : EffectiveOptions) (type : TypeRef) (field : Identifier) : List Guard :=
  let empty := leavesOutEmpty options type
  if leavesOutAbsent options type then
    .present field :: (if empty then [.currentFilled] else [])
  else if empty then [if type.nullable then .absentOrFilled field else .filled field]
  else []

def fieldOperand (options : EffectiveOptions) (type : TypeRef) (field : Identifier) : Operand :=
  if leavesOutAbsent options type then .current else .field field

def subject (binding : PropertyBinding) : Emitted (List Guard × Operand) :=
  match binding.source with
  | .whole => .ok ([], .whole)
  | .property name type => do
      let field ← identifier name binding.location
      return (guards binding.options type field, fieldOperand binding.options type field)

def expression? (binding : PropertyBinding) : Emitted (Option (List Token)) :=
  match binding.expression with
  | none => .ok none
  | some text =>
      match Syntax.expression text with
      | .ok expression => .ok (some expression.tokens)
      | .error e =>
          .error (.reported
            ⟨.invalidSourceExpression binding.target.path e.message, binding.location⟩)

def callForm (handling : CollectionHandling) (elements : Bool) : CallForm :=
  match handling, elements with
  | .set, _ => .set
  | .addToSet, true => .addToSetEach
  | .addToSet, false => .addToSet
  | .push, true => .pushEach
  | .push, false => .push
  | .pullAll, true => .pullAll
  | .pullAll, false => .pullOne

/-- The expression is looked at before the name of the field. -/
def call (binding : PropertyBinding) : Emitted GeneratedCall := do
  let elements := takesElements binding
  let expression ← expression? binding
  let (guards, value) ← subject binding
  let operand :=
    match expression with
    | none => value
    | some tokens => if elements then .elements tokens else .expression tokens
  let form := callForm binding.options.collectionHandling elements
  return ⟨guards, form, binding.target.path, operand⟩

/-!
# Methods and traits
-/

def method (declared : UpdateMethod) : Emitted GeneratedMethod := do
  let name ← identifier declared.methodName declared.location
  let target ← identifier declared.targetType declared.location
  let source ←
    if declared.inherent then some <$> identifier declared.sourceType declared.location
    else pure none
  return ⟨declared, name, target, source, ← declared.bindings.mapM call⟩

def extensionTrait (config : GeneratorConfig) (methods : List GeneratedMethod) (source : String) :
    Emitted ExtensionTrait := do
  let location := Location.source source
  let sourceName ← identifier source location
  let traitName ← identifier (source ++ config.extensionSuffix) location
  return ⟨source, sourceName, traitName,
    methods.filter (fun method => method.declared.sourceType == source)⟩

/-- What was emitted and what was reported; a name that cannot be written stops all. -/
def gather {α : Type} : List (Emitted α) -> Except String (List α × List Diagnostic)
  | [] => .ok ([], [])
  | first :: rest => do
      match first with
      | .ok value =>
          let (values, diagnostics) ← gather rest
          return (value :: values, diagnostics)
      | .error (.reported diagnostic) =>
          let (values, diagnostics) ← gather rest
          return (values, diagnostic :: diagnostics)
      | .error (.unwritable name) => throw name

/-- Traits stand in the order of their sources, functions in the order of the methods. -/
def ofMethods (config : GeneratorConfig) (runtime : List Token) (methods : List UpdateMethod) :
    Except String Emission := do
  let (written, methodDiagnostics) ← gather (methods.map method)
  let functions := written.filter (fun method => method.declared.inherent)
  let members := written.filter (fun method => !method.declared.inherent)
  let sources := Aggregation.sortedNames (members.map (fun method => method.declared.sourceType))
  let (traits, traitDiagnostics) ← gather (sources.map (extensionTrait config members))
  return ⟨⟨runtime, traits, functions⟩, methodDiagnostics ++ traitDiagnostics⟩

end Emission
end PartialUpdate
