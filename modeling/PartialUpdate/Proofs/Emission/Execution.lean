import PartialUpdate.Document.Serialize
import PartialUpdate.Emission.Code
import PartialUpdate.Update.Definition

/-!
# What generated calls do

Generated calls are executed on a value of the source type.  A guard asks for what its field
holds, and a call hands a value, or elements one by one, to the builder.  Code that asks a value
for something it does not have, such as a number for its length, has no meaning.
-/

namespace PartialUpdate

/-!
# Values
-/

namespace Datum

def content : Datum -> Datum
  | .present value => value
  | value => value

def isAbsent : Datum -> Bool
  | .absent => true
  | _ => false

def isEmpty? : Datum -> Option Bool
  | .text value => some value.isEmpty
  | .items values => some values.isEmpty
  | .map entries => some entries.isEmpty
  | _ => none

def elements? : Datum -> Option (List Datum)
  | .items values => some values
  | _ => none

theorem serialize_content (value : Datum) : serialize value.content = serialize value := by
  cases value with
  | present value => simp only [content, serialize]
  | _ => rfl

end Datum

namespace TypeKind

/-- Texts and collections have the values of their kind; of any other type all is possible. -/
def admits : TypeKind -> Datum -> Bool
  | .text, .text _ => true
  | .sequence _, .items _ => true
  | .map _, .map _ => true
  | .scalar _, _ | .named _, _ | .unclassified _, _ => true
  | _, _ => false

end TypeKind

namespace TypeRef

def admits (type : TypeRef) (value : Datum) : Bool :=
  if type.nullable then
    match value with
    | .absent => true
    | .present value => type.kind.admits value
    | _ => false
  else type.kind.admits value

end TypeRef

/-- A value of the source type, as far as generated code gets at it. -/
structure SourceValue where
  field : String -> Datum
  whole : Datum
  elements : List Datum
  /-- What an expression stands for; it may use the current value, where there is one. -/
  expression : Option Datum -> List Token -> Datum
  expressionElements : Option Datum -> List Token -> List Datum

/-!
# Guards
-/

/-- What comes of a guard: the call is skipped, or entered with a current value. -/
inductive Entry
  | skipped
  | entered (current : Option Datum)

namespace Guard

def enterUnless (empty : Bool) (current : Option Datum) : Entry :=
  if empty then .skipped else .entered current

def enter (source : SourceValue) (current : Option Datum) : Guard -> Option Entry
  | .present field =>
      match source.field field.name with
      | .absent => some .skipped
      | .present value => some (.entered (some value))
      | _ => none
  | .currentFilled => do return enterUnless (← (← current).isEmpty?) current
  | .filled field => do return enterUnless (← (source.field field.name).isEmpty?) current
  | .absentOrFilled field =>
      match source.field field.name with
      | .absent => some (.entered current)
      | .present value => do return enterUnless (← value.isEmpty?) current
      | _ => none

/-- The guards of a call, from the outermost inwards. -/
def enterAll (source : SourceValue) : Option Datum -> List Guard -> Option Entry
  | current, [] => some (.entered current)
  | current, guard :: guards => do
      match ← guard.enter source current with
      | .skipped => some .skipped
      | .entered current => enterAll source current guards

end Guard

/-!
# Calls
-/

namespace Operand

def value? (source : SourceValue) (current : Option Datum) : Operand -> Option Datum
  | .whole => some source.whole
  | .current => current
  | .field name => some (source.field name.name)
  | .expression tokens => some (source.expression current tokens)
  | .elements _ => none

def elements? (source : SourceValue) (current : Option Datum) : Operand -> Option (List Datum)
  | .whole => some source.elements
  | .current => current.bind Datum.elements?
  | .field name => (source.field name.name).elements?
  | .expression _ => none
  | .elements tokens => some (source.expressionElements current tokens)

end Operand

namespace GeneratedCall

def builderCall? (source : SourceValue) (current : Option Datum) (call : GeneratedCall) :
    Option (BuilderCall Datum) :=
  let value := call.operand.value? source current
  let elements := call.operand.elements? source current
  match call.form with
  | .set => value.map (.set call.path)
  | .addToSet => value.map (.addToSet call.path)
  | .addToSetEach => elements.map (.addToSetEach call.path)
  | .push => value.map (.push call.path)
  | .pushEach => elements.map (.pushEach call.path)
  | .pullAll => elements.map (.pullAll call.path)
  | .pullOne => value.map (fun value => .pullAll call.path [value])

/-- The update after a call.  A skipped call leaves it as it is; the failure of the builder is
the failure of the call. -/
def execute (source : SourceValue) (update : UpdateDefinition) (call : GeneratedCall) :
    Option (Except (UpdateError SerializeError) UpdateDefinition) := do
  match ← Guard.enterAll source none call.guards with
  | .skipped => some (.ok update)
  | .entered current => return update.call Datum.serialize (← call.builderCall? source current)

/-- Executes the calls of a body in order, up to the first that fails. -/
def executeAll (source : SourceValue) :
    UpdateDefinition -> List GeneratedCall ->
      Option (Except (UpdateError SerializeError) UpdateDefinition)
  | update, [] => some (.ok update)
  | update, call :: calls => do
      match ← call.execute source update with
      | .error e => some (.error e)
      | .ok update => executeAll source update calls

end GeneratedCall
end PartialUpdate
