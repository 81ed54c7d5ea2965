import PartialUpdate.Syntax.Expression

/-!
# Items as written

Of a structure all parts are kept; of other types and of blocks of functions what names them;
other items are tokens.
-/

namespace PartialUpdate

structure FieldSyntax where
  attributes : List Attribute
  /-- Empty for a field that is not visible outside. -/
  visibility : List Token
  /-- The name and its place; fields in parentheses have none. -/
  name : Option (Identifier × Span)
  type : TypeSyntax
  comma : Bool
  deriving DecidableEq, Inhabited

inductive FieldsSyntax
  | named (fields : List FieldSyntax)
  | unnamed (fields : List FieldSyntax)
  | unit
  deriving DecidableEq, Inhabited

structure StructSyntax where
  attributes : List Attribute
  visibility : List Token
  name : Identifier
  nameSpan : Span
  generics : List Token
  conditions : List Token
  fields : FieldsSyntax
  deriving DecidableEq

structure EnumSyntax where
  name : Identifier
  nameSpan : Span
  tokens : List Token
  deriving DecidableEq

/-- A function or constant of a type. -/
structure ImplMember where
  name : Identifier
  /-- A function has a body, and a constant a value and neither parameters nor conditions; a
  member of another form is kept as it stood. -/
  understood : Bool
  deriving DecidableEq

/-- Functions and constants of a type, perhaps those of a trait. -/
structure ImplSyntax where
  ofTrait : Bool
  selfType : TypeSyntax
  members : List ImplMember
  tokens : List Token
  deriving DecidableEq, Inhabited

inductive Item
  | struct (item : StructSyntax)
  | enumeration (item : EnumSyntax)
  | implementation (item : ImplSyntax)
  | other (tokens : List Token)
  deriving DecidableEq

structure ModuleSyntax where
  /-- All up to and with the name. -/
  lead : List Token
  body : Option (List Token × List Item)
  deriving Inhabited

namespace FieldSyntax

def isPublic (field : FieldSyntax) : Bool :=
  !field.visibility.isEmpty

def tokens (field : FieldSyntax) : List Token :=
  let name :=
    match field.name with
    | some (name, _) => Token.ofIdentifier name :: Token.operator ":"
    | none => []
  field.attributes.flatMap Attribute.tokens ++ field.visibility ++ name ++ field.type.tokens
    ++ (if field.comma then [Token.comma] else [])

end FieldSyntax

namespace FieldsSyntax

def toList : FieldsSyntax -> List FieldSyntax
  | .named fields | .unnamed fields => fields
  | .unit => []

end FieldsSyntax

namespace StructSyntax

def tokens (item : StructSyntax) : List Token :=
  let lead :=
    item.attributes.flatMap Attribute.tokens ++ item.visibility
      ++ [Token.word "struct", Token.ofIdentifier item.name] ++ item.generics
  match item.fields with
  | .named fields =>
      lead ++ item.conditions ++ [Token.braced (fields.flatMap FieldSyntax.tokens)]
  | .unnamed fields =>
      lead ++ [Token.parenthesized (fields.flatMap FieldSyntax.tokens)] ++ item.conditions
        ++ [Token.semicolon]
  | .unit => lead ++ item.conditions ++ [Token.semicolon]

end StructSyntax

namespace Item

def tokens : Item -> List Token
  | .struct item => item.tokens
  | .enumeration item => item.tokens
  | .implementation item => item.tokens
  | .other tokens => tokens

end Item

namespace ModuleSyntax

def tokens (item : ModuleSyntax) : List Token :=
  match item.body with
  | none => item.lead ++ [Token.semicolon]
  | some (attributes, items) =>
      item.lead ++ [Token.braced (attributes ++ items.flatMap Item.tokens)]

end ModuleSyntax
end PartialUpdate
