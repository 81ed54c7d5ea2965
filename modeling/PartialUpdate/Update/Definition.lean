import PartialUpdate.Update.Operation

/-!
# Update definitions

A definition records operations in the order of the calls that made them, and renders them
as one update document.  The calls are generic in the values they are given: `serialize`
turns a value into its stored form or fails.
-/

namespace PartialUpdate

structure UpdateDefinition where
  operations : List UpdateOperation

inductive UpdateError (ε : Type)
  | emptyPath
  | serialization (path : String) (cause : ε)

/-- A call on a definition, before its values are serialized. -/
inductive BuilderCall (α : Type)
  | set (path : String) (value : α)
  | addToSet (path : String) (value : α)
  | addToSetEach (path : String) (values : List α)
  | push (path : String) (value : α)
  | pushEach (path : String) (values : List α)
  | pullAll (path : String) (values : List α)

namespace BuilderCall

variable {α ε : Type}

def path : BuilderCall α -> String
  | .set path _ | .addToSet path _ | .addToSetEach path _ => path
  | .push path _ | .pushEach path _ | .pullAll path _ => path

def values : BuilderCall α -> List α
  | .set _ value | .addToSet _ value | .push _ value => [value]
  | .addToSetEach _ values | .pushEach _ values | .pullAll _ values => values

def storeValue (serialize : α -> Except ε DocumentValue) (path : String) (value : α) :
    Except (UpdateError ε) DocumentValue :=
  if path.isEmpty then .error .emptyPath
  else (serialize value).mapError (UpdateError.serialization path)

/-- An empty path is reported before any value is looked at. -/
def storeValues (serialize : α -> Except ε DocumentValue) (path : String) (values : List α) :
    Except (UpdateError ε) (List DocumentValue) :=
  if path.isEmpty then .error .emptyPath
  else values.mapM (storeValue serialize path)

def operation (serialize : α -> Except ε DocumentValue) :
    BuilderCall α -> Except (UpdateError ε) UpdateOperation
  | .set path value => do return .set path (← storeValue serialize path value)
  | .addToSet path value => do return .addToSet path (← storeValue serialize path value)
  | .addToSetEach path values => do return .addToSetEach path (← storeValues serialize path values)
  | .push path value => do return .push path (← storeValue serialize path value)
  | .pushEach path values => do return .pushEach path (← storeValues serialize path values)
  | .pullAll path values => do return .pullAll path (← storeValues serialize path values)

end BuilderCall

namespace UpdateError

variable {ε : Type}

def message (describe : ε -> String) : UpdateError ε -> String
  | .emptyPath => "update field path must not be empty"
  | .serialization path cause => "cannot serialize value for `" ++ path ++ "`: " ++ describe cause

end UpdateError

namespace UpdateDefinition

variable {α ε : Type}

def empty : UpdateDefinition := ⟨[]⟩

def call (serialize : α -> Except ε DocumentValue) (update : UpdateDefinition)
    (call : BuilderCall α) : Except (UpdateError ε) UpdateDefinition := do
  return ⟨update.operations ++ [← call.operation serialize]⟩

def combine (update other : UpdateDefinition) : UpdateDefinition :=
  ⟨update.operations ++ other.operations⟩

def length (update : UpdateDefinition) : Nat :=
  update.operations.length

def isEmpty (update : UpdateDefinition) : Bool :=
  update.operations.isEmpty

def paths (update : UpdateDefinition) : List String :=
  update.operations.map UpdateOperation.path

def same (update other : UpdateDefinition) : Bool :=
  update.operations.length == other.operations.length
    && (update.operations.zip other.operations).all (fun pair => pair.1.same pair.2)

/-!
# The update document

Operators stand in the order of their first operation, paths in the order of their first
operation under the operator; a repeated path keeps its place and takes the last operand.
-/

def render (document : Document) (operation : UpdateOperation) : Document :=
  match document.get? operation.operator with
  | some (.document fields) =>
      document.insert operation.operator
        (.document (Document.insert fields operation.path operation.operand))
  | _ =>
      document.insert operation.operator (.document [(operation.path, operation.operand)])

def toDocument (update : UpdateDefinition) : Document :=
  update.operations.foldl render []

end UpdateDefinition
end PartialUpdate
