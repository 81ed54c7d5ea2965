/-!
# Member types

The shape of a member type, as far as updates depend on it, and whether a value of the
type may be absent.
-/

namespace PartialUpdate

mutual

structure TypeRef where
  nullable : Bool
  kind : TypeKind
  deriving DecidableEq

inductive TypeKind
  /-- Truth values, characters and numbers. -/
  | scalar (name : String)
  | text
  | sequence (element : TypeRef)
  /-- Stored as a document, by key. -/
  | map (value : TypeRef)
  /-- A declared type, by its unqualified name. -/
  | named (name : String)
  /-- Any other type, by its text. -/
  | unclassified (text : String)
  deriving DecidableEq

end

instance : Inhabited TypeRef := ⟨⟨false, .text⟩⟩

namespace TypeRef

def ofKind (kind : TypeKind) : TypeRef := ⟨false, kind⟩

def scalar (name : String) : TypeRef := ofKind (.scalar name)

def text : TypeRef := ofKind .text

def sequence (element : TypeRef) : TypeRef := ofKind (.sequence element)

def map (value : TypeRef) : TypeRef := ofKind (.map value)

def named (name : String) : TypeRef := ofKind (.named name)

def unclassified (text : String) : TypeRef := ofKind (.unclassified text)

def optional (type : TypeRef) : TypeRef := { type with nullable := true }

def isSequence (type : TypeRef) : Bool :=
  match type.kind with
  | .sequence _ => true
  | _ => false

def isMap (type : TypeRef) : Bool :=
  match type.kind with
  | .map _ => true
  | _ => false

def isCollection (type : TypeRef) : Bool :=
  type.isSequence || type.isMap

def isText (type : TypeRef) : Bool :=
  match type.kind with
  | .text => true
  | _ => false

def element? (type : TypeRef) : Option TypeRef :=
  match type.kind with
  | .sequence element => some element
  | _ => none

def namedType? (type : TypeRef) : Option String :=
  match type.kind with
  | .named name => some name
  | _ => none

end TypeRef
end PartialUpdate
