import PartialUpdate.Declaration.Spec
import PartialUpdate.Declaration.Naming
import PartialUpdate.Metadata.Table
import PartialUpdate.Reading.Classification
import PartialUpdate.Syntax.Item

/-!
# Declared types

What a structure as written declares: its members, with the names under which they are stored,
and the updates.  Each attribute is read on its own, so that none hides what is wrong with
another.
-/

namespace PartialUpdate

/-!
# Attributes
-/

inductive UpdateAttribute
  | update
  | property
  | ignore
  | target
  deriving DecidableEq, Inhabited

namespace UpdateAttribute

def all : List UpdateAttribute := [.update, .property, .ignore, .target]

def name : UpdateAttribute -> String
  | .update => "update"
  | .property => "update_property"
  | .ignore => "update_ignore"
  | .target => "update_target"

def of? (written : Attribute) : Option UpdateAttribute :=
  all.find? (fun kind => written.isNamed kind.name)

end UpdateAttribute

inductive StructDeclaration
  | marker (spec : MarkerSpec)
  | property (spec : PropertySpec)
  | target (spec : TargetSpec)
  | unrelated

inductive FieldDeclaration
  | property (spec : PropertySpec)
  | ignored
  | unrelated

namespace Attribute

def onStruct (written : Attribute) : Except DeclarationError StructDeclaration :=
  match UpdateAttribute.of? written with
  | some .update => (MarkerSpec.ofContent written.item.content).map .marker
  | some .property => (PropertySpec.ofContent written.item.content).map .property
  | some .target => (TargetSpec.ofContent written.item.content).map .target
  | some .ignore => .error (DeclarationError.of .ignoredStruct)
  | none => .ok .unrelated

def onField (written : Attribute) : Except DeclarationError FieldDeclaration :=
  match UpdateAttribute.of? written, written.item.content with
  | some .property, content => (PropertySpec.ofContent content).map .property
  | some .ignore, .word => .ok .ignored
  | some .ignore, _ =>
      .error (DeclarationError.of (.malformed (.other "unexpected token in attribute")))
  | some .update, _ | some .target, _ => .error (DeclarationError.of .structAttributeOnField)
  | none, _ => .ok .unrelated

end Attribute

/-!
# Fields
-/

namespace FieldSyntax

def declarations (field : FieldSyntax) : List FieldDeclaration :=
  field.attributes.filterMap (fun written => written.onField.toOption)

def specs (field : FieldSyntax) : List PropertySpec :=
  field.declarations.filterMap fun
    | .property spec => some spec
    | _ => none

def isIgnored (field : FieldSyntax) : Bool :=
  field.declarations.any fun
    | .ignored => true
    | _ => false

def naming (field : FieldSyntax) : Except DeclarationError Naming :=
  Naming.ofAttributes field.attributes

def errors (field : FieldSyntax) : List DeclarationError :=
  (failure? field.naming).toList
    ++ field.attributes.filterMap (fun written => failure? written.onField)

/-- The member that a field of this name is, in a type with a naming of its own. -/
def member (container : Naming) (field : FieldSyntax) (name : String) : MemberInfo :=
  let naming := field.naming.toOption.getD {}
  { name := name
    storedName := naming.storedName container name
    type := field.type.classify
    isPublic := field.isPublic
    skipped := naming.skip
    excluded := field.isIgnored
    specs := field.specs }

end FieldSyntax

/-!
# Structures
-/

namespace FieldsSyntax

def named? : FieldsSyntax -> Option (List (String × Span × FieldSyntax))
  | .named fields =>
      some (fields.filterMap (fun field =>
        field.name.map (fun (name, span) => (name.name, span, field))))
  | .unnamed _ | .unit => none

end FieldsSyntax

namespace StructSyntax

def declarations (item : StructSyntax) : List (StructDeclaration × Span) :=
  item.attributes.filterMap (fun written =>
    written.onStruct.toOption.map (fun declared => (declared, written.span)))

def markers (item : StructSyntax) : List (MarkerSpec × Span) :=
  item.declarations.filterMap fun
    | (.marker spec, span) => some (spec, span)
    | _ => none

def typeSpecs (item : StructSyntax) : List PropertySpec :=
  item.declarations.filterMap fun
    | (.property spec, _) => some spec
    | _ => none

def targets (item : StructSyntax) : List TargetSpec :=
  item.declarations.filterMap fun
    | (.target spec, _) => some spec
    | _ => none

/-- The last declaration counts. -/
def isExtensible (item : StructSyntax) : Bool :=
  item.targets.getLast?.any TargetSpec.extensible

def naming (item : StructSyntax) : Except DeclarationError Naming :=
  Naming.ofAttributes item.attributes

def namedFields (item : StructSyntax) : List (String × Span × FieldSyntax) :=
  item.fields.named?.getD []

def info (item : StructSyntax) : TypeInfo where
  name := item.name.name
  members := item.namedFields.map (fun (name, _, field) =>
    field.member (item.naming.toOption.getD {}) name)
  extensible := item.isExtensible
  markers := item.markers.map Prod.fst
  typeSpecs := item.typeSpecs

def fieldErrors (item : StructSyntax) : List DeclarationError :=
  match item.fields.named? with
  | some fields => fields.flatMap (fun (_, _, field) => field.errors)
  | none =>
      if item.markers.isEmpty && item.typeSpecs.isEmpty then []
      else [DeclarationError.of .unnamedFields]

def errors (item : StructSyntax) : List DeclarationError :=
  item.attributes.filterMap (fun written => failure? written.onStruct)
    ++ (failure? item.naming).toList ++ item.fieldErrors

def error? (item : StructSyntax) : Option DeclarationError :=
  DeclarationError.ofList? item.errors

end StructSyntax
end PartialUpdate
