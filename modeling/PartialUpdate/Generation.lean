import PartialUpdate.Analysis
import PartialUpdate.Emission

/-!
# Generation

The analysis of a table and the emission of what it left.  A method that an error points at
is neither emitted nor listed.
-/

namespace PartialUpdate

structure Generation where
  code : GeneratedCode
  methods : List UpdateMethod
  diagnostics : List Diagnostic
  cancelled : List String

inductive GenerationError
  | invalidRuntimePath (path : String)
  /-- The name passes for an identifier, but no identifier can be made of it. -/
  | unwritableName (name : String)

namespace GenerationError

def message : GenerationError -> String
  | .invalidRuntimePath path => "`" ++ path ++ "` is not a valid runtime crate path"
  | .unwritableName name => "`" ++ name ++ "` is not an identifier"

end GenerationError

namespace Generation

def blamed (diagnostics : List Diagnostic) : List MethodKey :=
  diagnostics.filterMap (fun diagnostic =>
    if diagnostic.isError then
      match diagnostic.location.targetType, diagnostic.location.method with
      | some target, some method => some (target, method, diagnostic.location.sourceType)
      | _, _ => none
    else none)

def withoutErrors (diagnostics : List Diagnostic) (methods : List UpdateMethod) :
    List UpdateMethod :=
  methods.filter (fun method => !(blamed diagnostics).contains method.key)

def runtimePath (config : GeneratorConfig) : Except GenerationError (List Token) :=
  match Syntax.path config.runtimePath with
  | .ok path => .ok path.tokens
  | .error _ => .error (.invalidRuntimePath config.runtimePath)

def emitted (config : GeneratorConfig) (runtime : List Token) (methods : List UpdateMethod) :
    Except GenerationError Emission :=
  (Emission.ofMethods config runtime methods).mapError GenerationError.unwritableName

def ofAnalysis (config : GeneratorConfig) (runtime : List Token) (analysis : Analysis) :
    Except GenerationError Generation := do
  let methods := withoutErrors analysis.diagnostics analysis.methods
  let emission ← emitted config runtime methods
  let diagnostics := Diagnostic.sort (analysis.diagnostics ++ emission.diagnostics)
  return ⟨emission.code, withoutErrors diagnostics methods, diagnostics, analysis.cancelled⟩

def hasErrors (generation : Generation) : Bool :=
  generation.diagnostics.any Diagnostic.isError

def tokens (generation : Generation) : List Token :=
  generation.code.tokens

end Generation

/-- The runtime path is checked first; a run that is cancelled generates nothing. -/
def generate (table : TypeTable) (config : GeneratorConfig) (cancelled : Bool) :
    Except GenerationError Generation := do
  let runtime ← Generation.runtimePath config
  if cancelled then
    return ⟨⟨runtime, [], []⟩, [], [], table.sources.map TypeInfo.name⟩
  else Generation.ofAnalysis config runtime (analyze table config false)

end PartialUpdate
