import PartialUpdate.Reading.Declared

/-!
# Stripping

The items of a unit without the attributes that declare updates.  Those stand on structures
and on their fields; all else stays as it is.
-/

namespace PartialUpdate

namespace Attribute

def isForeign (written : Attribute) : Bool :=
  (UpdateAttribute.of? written).isNone

end Attribute

namespace FieldSyntax

def stripped (field : FieldSyntax) : FieldSyntax :=
  { field with attributes := field.attributes.filter Attribute.isForeign }

end FieldSyntax

namespace FieldsSyntax

def stripped : FieldsSyntax -> FieldsSyntax
  | .named fields => .named (fields.map FieldSyntax.stripped)
  | .unnamed fields => .unnamed (fields.map FieldSyntax.stripped)
  | .unit => .unit

end FieldsSyntax

namespace StructSyntax

def stripped (item : StructSyntax) : StructSyntax :=
  { item with
    attributes := item.attributes.filter Attribute.isForeign
    fields := item.fields.stripped }

end StructSyntax

namespace Item

def stripped : Item -> Item
  | .struct item => .struct item.stripped
  | .enumeration item => .enumeration item
  | .implementation item => .implementation item
  | .other tokens => .other tokens

end Item
end PartialUpdate
