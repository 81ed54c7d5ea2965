import Mathlib.Logic.Relation
import PartialUpdate.Reading.Classification
import PartialUpdate.Syntax.Grammar

/-!
# What classification sees through

The classification of a type looks into it at its open places: behind references, inside of
parentheses and brackets, and at one argument of the names that it knows.  What stands around
an open place takes the classification of what is inside as a whole, so that a change there
counts by its own classification alone, at every depth.
-/

namespace PartialUpdate

/-!
# Places in a classification
-/

namespace TypeRef

inductive Step
  | element
  | value
  deriving DecidableEq

def at? : List Step -> TypeRef -> Option TypeRef
  | [], type => some type
  | .element :: rest, ⟨_, .sequence element⟩ => element.at? rest
  | .value :: rest, ⟨_, .map value⟩ => value.at? rest
  | _ :: _, _ => none

/-- The same type, with values that may be absent at one place. -/
def markedAt : List Step -> TypeRef -> TypeRef
  | [], type => type.optional
  | .element :: rest, ⟨nullable, .sequence element⟩ =>
      ⟨nullable, .sequence (element.markedAt rest)⟩
  | .value :: rest, ⟨nullable, .map value⟩ => ⟨nullable, .map (value.markedAt rest)⟩
  | _ :: _, type => type

theorem optional_optional (type : TypeRef) : type.optional.optional = type.optional := rfl

theorem markedAt_optional (place : List Step) (type : TypeRef) :
    type.optional.markedAt place = (type.markedAt place).optional := by
  rcases type with ⟨nullable, kind⟩
  cases place with
  | nil => rfl
  | cons step rest => cases step <;> cases kind <;> rfl

theorem kind_at?_optional (place : List Step) (type : TypeRef) :
    (type.optional.at? place).map kind = (type.at? place).map kind := by
  rcases type with ⟨nullable, kind⟩
  cases place with
  | nil => rfl
  | cons step rest => cases step <;> cases kind <;> rfl

end TypeRef

/-!
# The argument that decides
-/

namespace GenericArgument

def isType : GenericArgument -> Bool
  | .type .. => true
  | .lifetime .. | .other .. => false

theorem classified_append (before after : List GenericArgument) :
    classified (before ++ after) = classified before ++ classified after := by
  induction before with
  | nil => rfl
  | cons argument rest ih =>
      cases argument with
      | type type comma => exact congrArg (List.cons type.classify) ih
      | lifetime tokens comma => exact ih
      | other tokens comma => exact ih

theorem length_classified (arguments : List GenericArgument) :
    (classified arguments).length = arguments.countP isType := by
  induction arguments with
  | nil => rfl
  | cons argument rest ih =>
      cases argument with
      | type type comma =>
          rw [classified, List.length_cons, ih, List.countP_cons_of_pos rfl]
      | lifetime tokens comma =>
          rw [classified, ih, List.countP_cons_of_neg Bool.false_ne_true]
      | other tokens comma =>
          rw [classified, ih, List.countP_cons_of_neg Bool.false_ne_true]

end GenericArgument

namespace Classification

/-- How one argument of a known name decides what the whole is. -/
inductive ArgumentRole
  /-- The whole is the argument, perhaps absent. -/
  | optional
  /-- The whole is the argument, which is the first one. -/
  | owned
  /-- The whole is the argument, which is the last one. -/
  | borrowed
  | element
  | value
  deriving DecidableEq

namespace ArgumentRole

def names : ArgumentRole -> List String
  | .optional => ["Option"]
  | .owned => pointerNames
  | .borrowed => ["Cow"]
  | .element => sequenceNames
  | .value => mapNames

/-- Whether the argument between these is the one that decides.  Only arguments that are types
count. -/
def Selects (before after : List GenericArgument) : ArgumentRole -> Prop
  | .optional | .owned | .element => before.countP GenericArgument.isType = 0
  | .value => before.countP GenericArgument.isType = 1
  | .borrowed => after.countP GenericArgument.isType = 0

def lifted : ArgumentRole -> TypeRef -> TypeRef
  | .optional => TypeRef.optional
  | .owned | .borrowed => id
  | .element => TypeRef.sequence
  | .value => TypeRef.map

def steps : ArgumentRole -> List TypeRef.Step
  | .optional | .owned | .borrowed => []
  | .element => [.element]
  | .value => [.value]

def chosen? (arguments : List TypeRef) : ArgumentRole -> Option TypeRef
  | .optional | .owned | .element => arguments.head?
  | .value => arguments[1]?
  | .borrowed => arguments.getLast?

variable {role : ArgumentRole} {name : String}

theorem ofName_eq (hname : name ∈ role.names) (arguments : List TypeRef) (whole : TypeRef) :
    ofName name arguments whole = ((role.chosen? arguments).map role.lifted).getD whole := by
  cases role with
  | optional =>
      rw [List.mem_singleton.mp hname]
      rfl
  | owned =>
      simp only [names, pointerNames, List.mem_cons, List.not_mem_nil, or_false] at hname
      rw [lifted, Option.map_id, id]
      rcases hname with rfl | rfl | rfl <;> rfl
  | borrowed =>
      rw [List.mem_singleton.mp hname, lifted, Option.map_id, id]
      rfl
  | element =>
      simp only [names, sequenceNames, List.mem_cons, List.not_mem_nil, or_false] at hname
      rcases hname with rfl | rfl | rfl | rfl | rfl | rfl | rfl <;> rfl
  | value =>
      simp only [names, mapNames, List.mem_cons, List.not_mem_nil, or_false] at hname
      rcases hname with rfl | rfl | rfl <;> rfl

theorem chosen?_classified {before after : List GenericArgument}
    (h : role.Selects before after) (inner : TypeSyntax) (comma : Bool) :
    role.chosen? (GenericArgument.classified (before ++ .type inner comma :: after)) =
      some inner.classify := by
  rw [GenericArgument.classified_append, GenericArgument.classified]
  cases role with
  | optional | owned | element =>
      have hbefore : GenericArgument.classified before = [] := by
        rw [← List.length_eq_zero_iff, GenericArgument.length_classified]
        exact h
      rw [hbefore]
      rfl
  | value =>
      have hbefore : (GenericArgument.classified before).length = 1 := by
        rw [GenericArgument.length_classified]
        exact h
      rcases List.length_eq_one_iff.mp hbefore with ⟨first, hfirst⟩
      rw [hfirst]
      rfl
  | borrowed =>
      have hafter : GenericArgument.classified after = [] := by
        rw [← List.length_eq_zero_iff, GenericArgument.length_classified]
        exact h
      rw [hafter]
      exact List.getLast?_concat

end ArgumentRole

/-- A place among the arguments of a known name, which may be qualified. -/
structure ArgumentPlace where
  role : ArgumentRole
  rooted : Bool
  front : List PathStep
  name : Identifier
  turbofish : Bool
  before : List GenericArgument
  comma : Bool
  after : List GenericArgument
  known : name.name ∈ role.names
  selects : role.Selects before after

namespace ArgumentPlace

def around (place : ArgumentPlace) (inner : TypeSyntax) : TypeSyntax :=
  .path place.rooted (place.front ++ [.angled place.name place.turbofish
    (place.before ++ .type inner place.comma :: place.after)])

end ArgumentPlace

/-!
# Qualified paths
-/

theorem argumentsOfLast_concat (front : List PathStep) (last : PathStep) :
    PathStep.argumentsOfLast (front ++ [last]) = last.classifiedArguments := by
  induction front with
  | nil => rfl
  | cons step rest ih =>
      cases rest with
      | nil => rfl
      | cons next rest => exact ih

theorem classify_concat (rooted : Bool) (front : List PathStep) (last : PathStep) :
    (TypeSyntax.path rooted (front ++ [last])).classify =
      ofName last.name.name last.classifiedArguments
        (asText (.path rooted (front ++ [last]))) := by
  rw [TypeSyntax.classify, List.getLast?_concat, argumentsOfLast_concat]

/-- The whole stands for the type always or never. -/
theorem ofName_cases (name : String) (arguments : List TypeRef) :
    (forall whole, ofName name arguments whole = whole)
      ∨ forall whole other, ofName name arguments whole = ofName name arguments other := by
  have hgetD (found : Option TypeRef) :
      (forall whole, found.getD whole = whole)
        ∨ forall whole other, found.getD whole = found.getD other := by
    cases found with
    | none => exact Or.inl fun _ => rfl
    | some type => exact Or.inr fun _ _ => rfl
  unfold ofName
  split
  · exact hgetD _
  split
  · exact Or.inr fun _ _ => rfl
  split
  · exact hgetD _
  split
  · exact hgetD _
  split
  · exact hgetD _
  split
  · exact hgetD _
  split
  · exact Or.inr fun _ _ => rfl
  split
  · exact Or.inr fun _ _ => rfl
  · exact Or.inl fun _ => rfl

theorem classify_requalified {rooted : Bool} {front : List PathStep} {last : PathStep}
    (h : (TypeSyntax.path rooted (front ++ [last])).classify ≠
      asText (.path rooted (front ++ [last])))
    (otherRooted : Bool) (otherFront : List PathStep) :
    (TypeSyntax.path otherRooted (otherFront ++ [last])).classify =
      (TypeSyntax.path rooted (front ++ [last])).classify := by
  rw [classify_concat] at h ⊢
  rw [classify_concat]
  rcases ofName_cases last.name.name last.classifiedArguments with hwhole | hnever
  · exact absurd (hwhole _) h
  · exact hnever _ _

/-!
# Open places
-/

/-- A place that is open whenever the type around it is. -/
inductive OpenPlace
  | reference (lead : List Token)
  | parentheses
  | array (length : List Token)
  | slice
  | argument (place : ArgumentPlace)

namespace OpenPlace

def around : OpenPlace -> TypeSyntax -> TypeSyntax
  | .reference lead, inner => .reference lead inner
  | .parentheses, inner => .parenthesized inner
  | .array length, inner => .array inner length
  | .slice, inner => .slice inner
  | .argument place, inner => place.around inner

def lifted : OpenPlace -> TypeRef -> TypeRef
  | .reference _ | .parentheses => id
  | .array _ | .slice => TypeRef.sequence
  | .argument place => place.role.lifted

def steps : OpenPlace -> List TypeRef.Step
  | .reference _ | .parentheses => []
  | .array _ | .slice => [.element]
  | .argument place => place.role.steps

def IsTransparent : OpenPlace -> Prop
  | .reference _ | .parentheses => True
  | .array _ | .slice => False
  | .argument place => place.role = .owned ∨ place.role = .borrowed

theorem classify_around (place : OpenPlace) (inner : TypeSyntax) :
    (place.around inner).classify = place.lifted inner.classify := by
  cases place with
  | argument place =>
      rw [around, ArgumentPlace.around, classify_concat, PathStep.name,
        PathStep.classifiedArguments, ArgumentRole.ofName_eq place.known,
        ArgumentRole.chosen?_classified place.selects]
      rfl
  | reference lead => rw [around, TypeSyntax.classify, lifted, id]
  | parentheses => rw [around, TypeSyntax.classify, lifted, id]
  | array length => rw [around, TypeSyntax.classify, lifted]
  | slice => rw [around, TypeSyntax.classify, lifted]

theorem lifted_eq_self {place : OpenPlace} (h : place.IsTransparent) (type : TypeRef) :
    place.lifted type = type := by
  cases place with
  | reference lead => rfl
  | parentheses => rfl
  | array length => exact h.elim
  | slice => exact h.elim
  | argument place =>
      rw [lifted]
      rcases h with hrole | hrole
      · rw [hrole]
        rfl
      · rw [hrole]
        rfl

theorem markedAt_lifted (place : OpenPlace) (deeper : List TypeRef.Step) (type : TypeRef) :
    (place.lifted type).markedAt (place.steps ++ deeper) =
      place.lifted (type.markedAt deeper) := by
  cases place with
  | argument place =>
      rw [lifted, steps]
      cases place.role with
      | optional => exact TypeRef.markedAt_optional deeper type
      | owned | borrowed | element | value => rfl
  | reference _ | parentheses | array _ | slice => rfl

theorem kind_at?_lifted (place : OpenPlace) (deeper : List TypeRef.Step) (type : TypeRef) :
    ((place.lifted type).at? (place.steps ++ deeper)).map TypeRef.kind =
      (type.at? deeper).map TypeRef.kind := by
  cases place with
  | argument place =>
      rw [lifted, steps]
      cases place.role with
      | optional => exact TypeRef.kind_at?_optional deeper type
      | owned | borrowed | element | value => rfl
  | reference _ | parentheses | array _ | slice => rfl

end OpenPlace

/-!
# Types around open places
-/

/-- The inner type at an open place of any depth; the outermost place comes first. -/
def within (context : List OpenPlace) (inner : TypeSyntax) : TypeSyntax :=
  context.foldr OpenPlace.around inner

def stepsTo (context : List OpenPlace) : List TypeRef.Step :=
  context.flatMap OpenPlace.steps

theorem classify_within (context : List OpenPlace) (inner : TypeSyntax) :
    (within context inner).classify = context.foldr OpenPlace.lifted inner.classify := by
  induction context with
  | nil => rfl
  | cons place rest ih =>
      show (place.around (within rest inner)).classify = _
      rw [OpenPlace.classify_around, ih]
      rfl

theorem classify_within_eq (context : List OpenPlace) {inner other : TypeSyntax}
    (h : inner.classify = other.classify) :
    (within context inner).classify = (within context other).classify := by
  rw [classify_within, classify_within, h]

theorem markedAt_stepsTo (context : List OpenPlace) (type : TypeRef) :
    (context.foldr OpenPlace.lifted type).markedAt (stepsTo context) =
      context.foldr OpenPlace.lifted type.optional := by
  induction context with
  | nil => rfl
  | cons place rest ih =>
      show (place.lifted (rest.foldr OpenPlace.lifted type)).markedAt
        (place.steps ++ stepsTo rest) = place.lifted (rest.foldr OpenPlace.lifted type.optional)
      rw [OpenPlace.markedAt_lifted, ih]

theorem kind_at?_stepsTo (context : List OpenPlace) (type : TypeRef) :
    ((context.foldr OpenPlace.lifted type).at? (stepsTo context)).map TypeRef.kind =
      some type.kind := by
  induction context with
  | nil => rfl
  | cons place rest ih =>
      show ((place.lifted (rest.foldr OpenPlace.lifted type)).at?
        (place.steps ++ stepsTo rest)).map TypeRef.kind = _
      rw [OpenPlace.kind_at?_lifted, ih]

/-- One change at an open place that classification sees through.  Only a path that is classified
as its own text may not be qualified in another way. -/
inductive Rewrites : TypeSyntax -> TypeSyntax -> Prop
  | wrapped (context : List OpenPlace) (place : OpenPlace) (inner : TypeSyntax) :
      place.IsTransparent ->
        Rewrites (within context inner) (within context (place.around inner))
  | requalified (context : List OpenPlace) (rooted : Bool) (front : List PathStep)
      (last : PathStep) (otherRooted : Bool) (otherFront : List PathStep) :
      (TypeSyntax.path rooted (front ++ [last])).classify ≠
          asText (.path rooted (front ++ [last])) ->
        Rewrites (within context (.path rooted (front ++ [last])))
          (within context (.path otherRooted (otherFront ++ [last])))

theorem classify_eq_of_rewrites {a b : TypeSyntax} (h : Rewrites a b) :
    a.classify = b.classify := by
  cases h with
  | wrapped context place inner hplace =>
      apply classify_within_eq
      rw [OpenPlace.classify_around, OpenPlace.lifted_eq_self hplace]
  | requalified context rooted front last otherRooted otherFront hknown =>
      apply classify_within_eq
      exact (classify_requalified hknown otherRooted otherFront).symm

theorem classify_within_optional (context : List OpenPlace) {option : ArgumentPlace}
    (h : option.role = .optional) (inner : TypeSyntax) :
    (within context (option.around inner)).classify =
      context.foldr OpenPlace.lifted inner.classify.optional := by
  have hinner : (option.around inner).classify = inner.classify.optional := by
    show ((OpenPlace.argument option).around inner).classify = _
    rw [OpenPlace.classify_around, OpenPlace.lifted, h]
    rfl
  rw [classify_within, hinner]

/-- Any number of marks, parentheses and pointers may be put around open places or taken away,
and the names there may be qualified in any way.  An `Option` at an open place marks just the
classification of that place, and a second one around it nothing more. -/
theorem classify_seesThrough :
    (forall a b, Relation.EqvGen Rewrites a b -> a.classify = b.classify)
    ∧ forall (context : List OpenPlace) (option : ArgumentPlace) (inner : TypeSyntax),
      option.role = .optional ->
        (within context (option.around inner)).classify =
            (within context inner).classify.markedAt (stepsTo context)
          ∧ ((within context inner).classify.at? (stepsTo context)).map TypeRef.kind =
            some inner.classify.kind
          ∧ forall again : ArgumentPlace, again.role = .optional ->
            (within context (again.around (option.around inner))).classify =
              (within context (option.around inner)).classify := by
  constructor
  · intro a b h
    induction h with
    | rel a b hstep => exact classify_eq_of_rewrites hstep
    | refl a => rfl
    | symm a b _hab ih => exact ih.symm
    | trans a b c _hab _hbc ihab ihbc => exact ihab.trans ihbc
  · intro context option inner hoption
    refine ⟨?_, ?_, ?_⟩
    · rw [classify_within_optional context hoption, classify_within, markedAt_stepsTo]
    · rw [classify_within, kind_at?_stepsTo]
    · intro again hagain
      have hinner := classify_within_optional [] hoption inner
      rw [classify_within_optional context hagain, classify_within_optional context hoption]
      change (option.around inner).classify = inner.classify.optional at hinner
      rw [hinner, TypeRef.optional_optional]

/-!
A map of settings, once in parentheses, and once with qualified names and a pointer.
-/

def mapPlace (front : List PathStep) : ArgumentPlace where
  role := .value
  rooted := false
  front := front
  name := .plain "HashMap"
  turbofish := false
  before := [.type (.path false [.plain (.plain "String")]) true]
  comma := false
  after := []
  known := by decide
  selects := rfl

def pointerPlace : ArgumentPlace where
  role := .owned
  rooted := false
  front := []
  name := .plain "Box"
  turbofish := false
  before := []
  comma := false
  after := []
  known := by decide
  selects := rfl

def optionPlace : ArgumentPlace where
  role := .optional
  rooted := false
  front := []
  name := .plain "Option"
  turbofish := false
  before := []
  comma := false
  after := []
  known := by decide
  selects := rfl

def settings (front : List PathStep) : TypeSyntax :=
  .path false (front ++ [.plain (.plain "Settings")])

def parenthesizedMap : List OpenPlace :=
  [.parentheses, .argument (mapPlace [])]

def qualifiedMap : List OpenPlace :=
  [.argument (mapPlace [.plain (.plain "collections")])]

theorem type_settings :
    (Syntax.type "(HashMap<String, Settings>)").toOption =
        some (within parenthesizedMap (settings []))
      ∧ (Syntax.type "collections::HashMap<String, Box<crate::Settings>>").toOption =
        some (within qualifiedMap (pointerPlace.around (settings [.plain (.plain "crate")]))) := by
  decide +kernel

theorem rewrites_settings :
    Relation.EqvGen Rewrites (within parenthesizedMap (settings []))
      (within qualifiedMap (pointerPlace.around (settings [.plain (.plain "crate")]))) := by
  have hunwrapped : Rewrites (within [.argument (mapPlace [])] (settings []))
      (within parenthesizedMap (settings [])) :=
    .wrapped [] .parentheses _ trivial
  have hmap : Rewrites (within [.argument (mapPlace [])] (settings []))
      (within qualifiedMap (settings [])) :=
    .requalified [] false [] _ false [.plain (.plain "collections")] (by decide +kernel)
  have hsettings : Rewrites (within qualifiedMap (settings []))
      (within qualifiedMap (settings [.plain (.plain "crate")])) :=
    .requalified qualifiedMap false [] _ false [.plain (.plain "crate")] (by decide +kernel)
  have hwrapped : Rewrites (within qualifiedMap (settings [.plain (.plain "crate")]))
      (within qualifiedMap (pointerPlace.around (settings [.plain (.plain "crate")]))) :=
    .wrapped qualifiedMap (.argument pointerPlace) _ (Or.inl rfl)
  apply Relation.EqvGen.trans _ _ _ (.symm _ _ (.rel _ _ hunwrapped))
  apply Relation.EqvGen.trans _ _ _ (.rel _ _ hmap)
  exact .trans _ _ _ (.rel _ _ hsettings) (.rel _ _ hwrapped)

theorem classify_seesThrough_settings :
    (exists a b, (Syntax.type "(HashMap<String, Settings>)").toOption = some a
      ∧ (Syntax.type "collections::HashMap<String, Box<crate::Settings>>").toOption = some b
      ∧ Relation.EqvGen Rewrites a b ∧ a.classify = b.classify)
    ∧ optionPlace.role = .optional
    ∧ (within parenthesizedMap (optionPlace.around (settings []))).classify =
      TypeRef.map (TypeRef.named "Settings").optional := by
  refine ⟨⟨_, _, type_settings.1, type_settings.2, rewrites_settings, ?_⟩, rfl, ?_⟩
  · exact classify_seesThrough.1 _ _ rewrites_settings
  · have hmarked := (classify_seesThrough.2 parenthesizedMap optionPlace (settings []) rfl).1
    have hplain : (within parenthesizedMap (settings [])).classify =
        TypeRef.map (TypeRef.named "Settings") := by
      decide +kernel
    rw [hmarked, hplain]
    rfl

end Classification
end PartialUpdate
