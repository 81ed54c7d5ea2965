import PartialUpdate.Declaration.Argument
import PartialUpdate.Metadata.Spec
import PartialUpdate.Text.CaseMap

/-!
# Values of arguments

Each key of a declaration takes values of one kind.  A reader turns what is written behind a
key into such a value.
-/

namespace PartialUpdate

inductive WrittenValue
  | text (value : String)
  | truth (value : Bool)
  | path (path : PathSyntax)
  | other (typeName : String)

namespace LiteralKind

def typeName : LiteralKind -> String
  | .string => "string"
  | .byteString => "byte string"
  | .cString => "unknown"
  | .byte => "byte"
  | .character => "char"
  | .integer => "int"
  | .float => "float"
  | .placeholder => "verbatim"

end LiteralKind

namespace Expression

def value (expression : Expression) : WrittenValue :=
  match expression.shape.kind, expression.tokens, expression.shape.path with
  | .literal, [.literal .string text _], _ => .text (Literal.stringValue text)
  | .literal, [.literal kind _ _], _ => .other kind.typeName
  | .literal, [.punctuation .., .literal kind _ _], _ => .other kind.typeName
  | .literal, [.identifier name _], _ => .truth (name.name == "true")
  | .path, _, some path => .path path
  | kind, _, _ => .other kind.name

end Expression

namespace WrittenValue

def typeName : WrittenValue -> String
  | .text _ => "string"
  | .truth _ => "bool"
  | .path _ => "path"
  | .other typeName => typeName

def mismatch (value : WrittenValue) : DeclarationFault :=
  .wrongType value.typeName

end WrittenValue

/-!
# Readers
-/

abbrev ValueReader (α : Type) := AttributeContent -> Except DeclarationError α

namespace ValueReader

variable {α : Type}

/-- A list is no value, but what is wrong inside comes first. -/
def rejectList (tokens : List Token) : Except DeclarationError α := do
  let _ ← Argument.ofTokens tokens
  throw (DeclarationError.of (.wrongForm .list))

def ofForms (word : Except DeclarationFault α)
    (value : WrittenValue -> Except DeclarationFault α) : ValueReader α
  | .word => word.mapError DeclarationError.of
  | .list _ tokens => rejectList tokens
  | .value expression => (value expression.value).mapError DeclarationError.of

def ofValues (value : WrittenValue -> Except DeclarationFault α) : ValueReader α :=
  ofForms (.error (.wrongForm .word)) value

def text : ValueReader String :=
  ofValues fun value =>
    match value with
    | .text text => .ok text
    | _ => .error value.mismatch

def truth : ValueReader Bool :=
  ofForms (.ok true) fun value =>
    match value with
    | .truth truth => .ok truth
    | .text "true" => .ok true
    | .text "false" => .ok false
    | .text text => .error (.unknownValue text)
    | _ => .error value.mismatch

/-- Ways to write a collection, in any case and with or without underscores. -/
def handlingOf? (text : String) : Option CollectionHandling :=
  match String.ofList (CaseMap.lowerText (text.toList.filter (fun c => c != '_'))) with
  | "set" => some .set
  | "addtoset" => some .addToSet
  | "push" => some .push
  | "pullall" => some .pullAll
  | _ => none

def handling : ValueReader CollectionHandling :=
  ofValues fun value =>
    match value with
    | .text text =>
        match handlingOf? text with
        | some handling => .ok handling
        | none => .error (.unknownValue text)
    | _ => .error value.mismatch

def pathName (path : PathSyntax) : String :=
  "::".intercalate (path.names.map Identifier.name)

/-- A type by its path, or by a text that holds one. -/
def typeName : ValueReader String :=
  ofValues fun value =>
    match value with
    | .path path => .ok (pathName path)
    | .text text =>
        match Syntax.path text with
        | .ok path => .ok (pathName path)
        | .error _ => .error (.unknownValue text)
    | _ => .error value.mismatch

def flag : ValueReader Bool
  | .word => .ok true
  | .value expression => .error (DeclarationError.of expression.value.mismatch)
  | .list _ tokens => do
      let errors := (← Argument.ofTokens tokens).map fun
        | .literal => DeclarationError.of (.wrongType "lit")
        | .keyed key _ => DeclarationError.of (.strayKey key)
      throw ((DeclarationError.ofList? errors).getD (DeclarationError.of .emptyFlagList))

end ValueReader
end PartialUpdate
