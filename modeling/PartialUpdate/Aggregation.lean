import PartialUpdate.Validation

/-!
# Aggregation

The methods of one source type, at most one for each pair of target and method name.  A pair
that several markers declare is ambiguous, and so is a name that the extension trait would
have to give to methods of several targets.  Ambiguity is judged on all markers, also on
those whose methods were already dropped.
-/

namespace PartialUpdate

structure DeclaredMethod where
  targetType : String
  methodName : String
  inherent : Bool
  location : Location
  deriving DecidableEq

namespace DeclaredMethod

def ofResolved (method : ResolvedMethod) : DeclaredMethod where
  targetType := method.targetType
  methodName := method.methodName
  inherent := method.requiresExtensibleTarget
  location := method.location

def pair (method : DeclaredMethod) : String × String :=
  (method.targetType, method.methodName)

end DeclaredMethod

namespace Resolution

def declared (resolution : Resolution) : List DeclaredMethod :=
  resolution.methods.map DeclaredMethod.ofResolved

end Resolution

structure Aggregation where
  /-- Sorted by target and method. -/
  methods : List UpdateMethod
  diagnostics : List Diagnostic

namespace Aggregation

def pairLe (a b : String × String) : Bool :=
  if a.1 = b.1 then Ordered.textLe a.2 b.2 else Ordered.textLe a.1 b.1

def sortedPairs (pairs : List (String × String)) : List (String × String) :=
  pairs.eraseDups.mergeSort pairLe

def sortedNames (names : List String) : List String :=
  names.eraseDups.mergeSort Ordered.textLe

/-!
# Ambiguous pairs and names
-/

def declaring (declared : List DeclaredMethod) (pair : String × String) : List DeclaredMethod :=
  declared.filter (fun method => method.pair == pair)

def isAmbiguousPair (declared : List DeclaredMethod) (pair : String × String) : Bool :=
  (declaring declared pair).length > 1

def pairDiagnostic? (declared : List DeclaredMethod) (pair : String × String) :
    Option Diagnostic :=
  match declaring declared pair with
  | first :: _ :: _ => some ⟨.duplicateMethod pair.2 pair.1, first.location⟩
  | _ => none

def pairDiagnostics (declared : List DeclaredMethod) : List Diagnostic :=
  (sortedPairs (declared.map DeclaredMethod.pair)).filterMap (pairDiagnostic? declared)

def firstPerTarget : List DeclaredMethod -> List DeclaredMethod
  | [] => []
  | method :: rest =>
      method :: (firstPerTarget rest).filter (fun other => other.targetType != method.targetType)

def inTrait (declared : List DeclaredMethod) (name : String) : List DeclaredMethod :=
  declared.filter (fun method => !method.inherent && method.methodName == name)

/-- The declaration of the second target that the trait would give the name to. -/
def traitClash? (declared : List DeclaredMethod) (name : String) : Option DeclaredMethod :=
  (firstPerTarget (inTrait declared name))[1]?

def traitDiagnostic? (declared : List DeclaredMethod) (config : GeneratorConfig)
    (name : String) : Option Diagnostic := do
  let clash ← traitClash? declared name
  let owner := clash.location.sourceType ++ config.extensionSuffix
  return ⟨.methodNameAlreadyExists name owner, clash.location⟩

def traitDiagnostics (declared : List DeclaredMethod) (config : GeneratorConfig) :
    List Diagnostic :=
  let names := (declared.filter (fun method => !method.inherent)).map DeclaredMethod.methodName
  (sortedNames names).filterMap (traitDiagnostic? declared config)

/-!
# Repeated paths
-/

/-- The values that occur again, in the order of their first repetition. -/
def repeated : List String -> List String -> List String
  | _, [] => []
  | seen, path :: rest =>
      if seen.contains path then
        path :: (repeated seen rest).filter (fun other => other != path)
      else repeated (path :: seen) rest

def sortedBindings (method : UpdateMethod) : UpdateMethod :=
  { method with bindings := method.bindings.mergeSort (fun a b => a.order <= b.order) }

def repeatedPaths (method : UpdateMethod) : List String :=
  repeated [] (method.bindings.map (fun binding => binding.target.path))

def pathDiagnostics (method : UpdateMethod) : List Diagnostic :=
  (repeatedPaths method).map
    (fun path => ⟨.duplicateTargetPath path method.methodName, method.location⟩)

/-!
# Outcome
-/

/-- The only method of a pair, unless the pair or its name is ambiguous. -/
def candidate? (declared : List DeclaredMethod) (methods : List UpdateMethod)
    (pair : String × String) : Option UpdateMethod :=
  match methods.filter (fun method => method.pair == pair) with
  | [method] =>
      if isAmbiguousPair declared pair then none
      else if !method.inherent && (traitClash? declared pair.2).isSome then none
      else some (sortedBindings method)
  | _ => none

def candidates (declared : List DeclaredMethod) (methods : List UpdateMethod) :
    List UpdateMethod :=
  (sortedPairs (methods.map UpdateMethod.pair)).filterMap (candidate? declared methods)

end Aggregation

def aggregate (methods : List UpdateMethod) (declared : List DeclaredMethod)
    (config : GeneratorConfig) : Aggregation :=
  let candidates := Aggregation.candidates declared methods
  { methods := candidates.filter (fun method => (Aggregation.repeatedPaths method).isEmpty)
    diagnostics :=
      Aggregation.pairDiagnostics declared ++ Aggregation.traitDiagnostics declared config
        ++ candidates.flatMap Aggregation.pathDiagnostics }

end PartialUpdate
