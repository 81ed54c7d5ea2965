/-!
# Declared updates

What is declared about updates on a source type.  An option that is left out is `none`: the
configured default applies and no rule about the option is checked.
-/

namespace PartialUpdate

inductive CollectionHandling
  | set
  | addToSet
  | push
  | pullAll
  deriving DecidableEq, Inhabited

namespace CollectionHandling

def name : CollectionHandling -> String
  | .set => "set"
  | .addToSet => "add_to_set"
  | .push => "push"
  | .pullAll => "pull_all"

def named : List (String × CollectionHandling) :=
  [.set, .addToSet, .push, .pullAll].map (fun handling => (handling.name, handling))

end CollectionHandling

/-- The source type has a method that builds an update of the target type. -/
structure MarkerSpec where
  targetType : String
  methodName : Option String := none
  /-- Only fields with a property spec take part. -/
  ignoreUnmarked : Option Bool := none
  /-- The method becomes a function of the target type. -/
  extensibleTargetRequired : Option Bool := none
  /-- Path to an element of a collection in the target; property paths start there. -/
  nestedPath : Option String := none
  deriving DecidableEq, Inhabited

/-- How one source property is written to one target field for one method. -/
structure PropertySpec where
  /-- Path of the target field; the source field's name stands in. -/
  targetName : Option String := none
  methodName : Option String := none
  ignoreNull : Option Bool := none
  ignoreEmpty : Option Bool := none
  collectionHandling : Option CollectionHandling := none
  /-- Belongs to every method declared on the type. -/
  applyToAllMethods : Option Bool := none
  /-- The empty text counts as empty. -/
  useStringEmpty : Option Bool := none
  /-- The source instance itself is iterated. -/
  isSourceArray : Option Bool := none
  expression : Option String := none
  deriving DecidableEq, Inhabited

end PartialUpdate
