import PartialUpdate.Configuration
import PartialUpdate.Diagnostic
import PartialUpdate.Metadata.Table

/-!
# Update methods

A binding writes one value to one document path; a descriptor lists the bindings of one
method, which builds updates of its target type from values of its source type.
-/

namespace PartialUpdate

inductive BindingSource
  | property (name : String) (type : TypeRef)
  | whole
  deriving DecidableEq, Inhabited

namespace BindingSource

def propertyName? : BindingSource -> Option String
  | .property name _ => some name
  | .whole => none

def isSequence (source : BindingSource) (options : EffectiveOptions) : Bool :=
  match source with
  | .property _ type => type.isSequence
  | .whole => options.isSourceArray

def isNullable : BindingSource -> Bool
  | .property _ type => type.nullable
  | .whole => false

end BindingSource

structure ResolvedTarget where
  path : String
  type : TypeRef
  deriving DecidableEq, Inhabited

structure PropertyBinding where
  /-- Place in the order of declaration. -/
  order : Nat
  source : BindingSource
  target : ResolvedTarget
  options : EffectiveOptions
  /-- An expression written in place of the property. -/
  expression : Option String
  location : Location
  deriving DecidableEq, Inhabited

structure UpdateMethod where
  sourceType : String
  targetType : String
  methodName : String
  bindings : List PropertyBinding
  inherent : Bool
  location : Location
  deriving DecidableEq, Inhabited

/-- Target type, method name and source type. -/
abbrev MethodKey := String × String × String

namespace MethodKey

def le (a b : MethodKey) : Bool :=
  if a.1 = b.1 then
    if a.2.1 = b.2.1 then Ordered.textLe a.2.2 b.2.2 else Ordered.textLe a.2.1 b.2.1
  else Ordered.textLe a.1 b.1

end MethodKey

namespace UpdateMethod

def key (method : UpdateMethod) : MethodKey :=
  (method.targetType, method.methodName, method.sourceType)

def pair (method : UpdateMethod) : String × String :=
  (method.targetType, method.methodName)

end UpdateMethod
end PartialUpdate
