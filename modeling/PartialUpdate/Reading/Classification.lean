import PartialUpdate.Metadata.TypeRef
import PartialUpdate.Syntax.TypeSyntax

/-!
# Classification of written types

The last name of a path decides what a type is, so that a qualified path and a bare name are
classified alike.  References, parentheses and owning pointers are seen through.  So would be
groups without delimiters, but types are read off a text here, and a text holds none.
-/

namespace PartialUpdate
namespace Classification

def scalarNames : List String :=
  ["bool", "char", "i8", "i16", "i32", "i64", "i128", "isize", "u8", "u16", "u32", "u64", "u128",
    "usize", "f32", "f64"]

def textNames : List String := ["String", "str"]

def sequenceNames : List String :=
  ["Vec", "VecDeque", "LinkedList", "HashSet", "BTreeSet", "IndexSet", "BinaryHeap"]

def mapNames : List String := ["HashMap", "BTreeMap", "IndexMap"]

def pointerNames : List String := ["Box", "Arc", "Rc"]

/-- The type by its last name, given its classified type arguments; `whole` is the type when
an argument is missing or the name is unknown and has arguments. -/
def ofName (name : String) (arguments : List TypeRef) (whole : TypeRef) : TypeRef :=
  if name = "Option" then (arguments.head?.map TypeRef.optional).getD whole
  else if textNames.contains name then TypeRef.text
  else if name = "Cow" then arguments.getLast?.getD whole
  else if pointerNames.contains name then arguments.head?.getD whole
  else if sequenceNames.contains name then (arguments.head?.map TypeRef.sequence).getD whole
  else if mapNames.contains name then (arguments[1]?.map TypeRef.map).getD whole
  else if scalarNames.contains name then TypeRef.scalar name
  else if arguments.isEmpty then TypeRef.named name
  else whole

def asText (type : TypeSyntax) : TypeRef :=
  TypeRef.unclassified (Token.texts type.tokens)

end Classification

open Classification in
mutual

def TypeSyntax.classify : TypeSyntax -> TypeRef
  | .reference _ target => target.classify
  | .parenthesized inner => inner.classify
  | .array element _ => TypeRef.sequence element.classify
  | .slice element => TypeRef.sequence element.classify
  | .path rooted steps =>
      match steps.getLast? with
      | none => asText (.path rooted steps)
      | some last =>
          ofName last.name.name (PathStep.argumentsOfLast steps) (asText (.path rooted steps))
  | .qualified tokens last => asText (.qualified tokens last)
  | .bound enclosed tokens => asText (.bound enclosed tokens)
  | .other tokens => asText (.other tokens)

def PathStep.argumentsOfLast : List PathStep -> List TypeRef
  | [] => []
  | [step] => step.classifiedArguments
  | _ :: next :: rest => PathStep.argumentsOfLast (next :: rest)

def PathStep.classifiedArguments : PathStep -> List TypeRef
  | .angled _ _ arguments => GenericArgument.classified arguments
  | .plain _ => []

/-- Lifetimes, constants and associated types are passed over. -/
def GenericArgument.classified : List GenericArgument -> List TypeRef
  | [] => []
  | .type type _ :: rest => type.classify :: GenericArgument.classified rest
  | .lifetime .. :: rest => GenericArgument.classified rest
  | .other .. :: rest => GenericArgument.classified rest

end

end PartialUpdate
