import PartialUpdate.Descriptor
import PartialUpdate.Syntax.Token

/-!
# Generated code

A generated method makes one builder call for each binding.  A call may stand under guards,
which leave it out when the value of its field is absent or empty.
-/

namespace PartialUpdate

/-- A condition on a field of the source value. -/
inductive Guard
  /-- The field has a value, which is called the current one from here on. -/
  | present (field : Identifier)
  | currentFilled
  | filled (field : Identifier)
  /-- The field has no value, or one that is not empty. -/
  | absentOrFilled (field : Identifier)

inductive Operand
  | whole
  | current
  | field (name : Identifier)
  | expression (tokens : List Token)
  /-- An expression whose elements are taken one by one. -/
  | elements (tokens : List Token)

inductive CallForm
  | set
  | addToSet
  | addToSetEach
  | push
  | pushEach
  | pullAll
  | pullOne
  deriving DecidableEq

structure GeneratedCall where
  /-- Outermost first. -/
  guards : List Guard
  form : CallForm
  path : String
  operand : Operand

structure GeneratedMethod where
  declared : UpdateMethod
  name : Identifier
  target : Identifier
  /-- The type that a function of the target takes; a method takes its own value. -/
  source : Option Identifier
  calls : List GeneratedCall

structure ExtensionTrait where
  sourceType : String
  source : Identifier
  name : Identifier
  methods : List GeneratedMethod

structure GeneratedCode where
  runtime : List Token
  traits : List ExtensionTrait
  functions : List GeneratedMethod

namespace CallForm

def name : CallForm -> String
  | .set => "set"
  | .addToSet => "add_to_set"
  | .addToSetEach => "add_to_set_each"
  | .push => "push"
  | .pushEach => "push_each"
  | .pullAll | .pullOne => "pull_all"

end CallForm

namespace GeneratedCode

def methods (code : GeneratedCode) : List GeneratedMethod :=
  code.traits.flatMap ExtensionTrait.methods ++ code.functions

end GeneratedCode
end PartialUpdate
