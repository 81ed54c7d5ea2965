import PartialUpdate.Diagnostic
import PartialUpdate.Reading.Declared

/-!
# Places of declarations

Where a unit declares its types, members and markers, so that a diagnostic can be shown at
the declaration that it is about.
-/

namespace PartialUpdate

structure MarkerPlace where
  sourceType : String
  targetType : String
  methodName : Option String
  span : Span
  deriving DecidableEq, Inhabited

namespace MarkerPlace

/-- Whether the marker may be the one that declares a method.  One that names no method may be
any, for its name comes from the configuration. -/
def declares (place : MarkerPlace) (source target method : String) : Bool :=
  place.sourceType == source && simpleTypeName place.targetType == target
    && place.methodName.all (fun name => name == method)

end MarkerPlace

structure Places where
  types : List (String × Span) := []
  members : List ((String × String) × Span) := []
  markers : List MarkerPlace := []
  deriving DecidableEq, Inhabited

namespace Places

/-- Later declarations take the place of earlier ones. -/
def last? {κ α : Type} [BEq κ] (key : κ) (entries : List (κ × α)) : Option α :=
  entries.reverse.lookup key

def member? (places : Places) (location : Location) : Option Span :=
  location.member.bind (fun member => last? (location.sourceType, member) places.members)

def marker? (places : Places) (location : Location) : Option Span :=
  match location.targetType, location.method with
  | some target, some method =>
      (places.markers.find? (fun place =>
        place.declares location.sourceType target method)).map MarkerPlace.span
  | _, _ => none

def type? (places : Places) (location : Location) : Option Span :=
  last? location.sourceType places.types

/-- The place of the member, or else of the marker, or else of the type. -/
def spanOf (places : Places) (location : Location) : Span :=
  ((places.member? location).orElse fun _ =>
    (places.marker? location).orElse fun _ => places.type? location).getD Span.unplaced

/-!
# Places of a unit
-/

def ofStruct (item : StructSyntax) : Places where
  types := [(item.name.name, item.nameSpan)]
  members := item.namedFields.map (fun (name, span, _) => ((item.name.name, name), span))
  markers := item.markers.map (fun (spec, span) =>
    ⟨item.name.name, spec.targetType, spec.methodName, span⟩)

def ofItem : Item -> Places
  | .struct item => ofStruct item
  | .enumeration item => { types := [(item.name.name, item.nameSpan)] }
  | .implementation _ | .other _ => {}

def ofItems (items : List Item) : Places where
  types := items.flatMap (fun item => (ofItem item).types)
  members := items.flatMap (fun item => (ofItem item).members)
  markers := items.flatMap (fun item => (ofItem item).markers)

end Places
end PartialUpdate
