import PartialUpdate.Aggregation

/-!
# Analysis

Every source type is analysed on its own; the results are merged in the order of target,
method and source.  Functions of a target type share one namespace, so that of several
sources which give a target one function the first by name keeps it.
-/

namespace PartialUpdate

structure Analysis where
  methods : List UpdateMethod
  diagnostics : List Diagnostic
  /-- Sources that were not analysed, in the order of the table. -/
  cancelled : List String

structure UnitAnalysis where
  methods : List UpdateMethod
  diagnostics : List Diagnostic

namespace UnitAnalysis

def ofSource (table : TypeTable) (config : GeneratorConfig) (source : TypeInfo) : UnitAnalysis :=
  let resolution := resolve source table config
  let validation := validate source resolution table
  let aggregation := aggregate validation.methods resolution.declared config
  { methods := aggregation.methods
    diagnostics := validation.diagnostics ++ aggregation.diagnostics }

end UnitAnalysis

namespace Analysis

/-- Parts the methods into those that keep their pair and those that come too late for it. -/
def claim : List (String × String) -> List UpdateMethod -> List UpdateMethod × List UpdateMethod
  | _, [] => ([], [])
  | claimed, method :: rest =>
      if method.inherent && claimed.contains method.pair then
        let (kept, late) := claim claimed rest
        (kept, method :: late)
      else
        let claimed := if method.inherent then method.pair :: claimed else claimed
        let (kept, late) := claim claimed rest
        (method :: kept, late)

def lateDiagnostic (method : UpdateMethod) : Diagnostic :=
  ⟨.duplicateMethod method.methodName method.targetType, method.location⟩

def sortMethods (methods : List UpdateMethod) : List UpdateMethod :=
  methods.mergeSort (fun a b => MethodKey.le a.key b.key)

def merge (units : List UnitAnalysis) : Analysis :=
  let (kept, late) := claim [] (sortMethods (units.flatMap UnitAnalysis.methods))
  { methods := kept
    diagnostics :=
      Diagnostic.sort (units.flatMap UnitAnalysis.diagnostics ++ late.map lateDiagnostic)
    cancelled := [] }

def ofSources (table : TypeTable) (config : GeneratorConfig) (sources : List TypeInfo) :
    Analysis :=
  merge (sources.map (UnitAnalysis.ofSource table config))

/-- A source that meets the cancellation contributes nothing. -/
def ofSourcesUnless (cancelled : Bool) (table : TypeTable) (config : GeneratorConfig)
    (sources : List TypeInfo) : Analysis :=
  if cancelled then ⟨[], [], sources.map TypeInfo.name⟩ else ofSources table config sources

end Analysis

def analyze (table : TypeTable) (config : GeneratorConfig) (cancelled : Bool) : Analysis :=
  Analysis.ofSourcesUnless cancelled table config table.sources

/-- Analyses only the named sources; other names are passed over. -/
def analyzeSubset (table : TypeTable) (names : List String) (config : GeneratorConfig)
    (cancelled : Bool) : Analysis :=
  Analysis.ofSourcesUnless cancelled table config
    (table.sources.filter (fun source => names.contains source.name))

end PartialUpdate
