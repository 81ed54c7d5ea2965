import PartialUpdate.Metadata.Spec

/-!
# Configuration

The settings of a run: the name of methods that name none, where the runtime lives, how the
extension traits are called, and what an option stands at when it is left out.
-/

namespace PartialUpdate

/-- The options of a property spec after the defaults are filled in. -/
structure EffectiveOptions where
  ignoreNull : Bool
  ignoreEmpty : Bool
  collectionHandling : CollectionHandling
  useStringEmpty : Bool
  isSourceArray : Bool
  deriving DecidableEq, Inhabited

structure OptionDefaults where
  ignoreNull : Bool := true
  ignoreEmpty : Bool := true
  collectionHandling : CollectionHandling := .set
  useStringEmpty : Bool := true
  applyToAllMethods : Bool := false
  isSourceArray : Bool := false
  ignoreUnmarked : Bool := false
  extensibleTargetRequired : Bool := false
  deriving DecidableEq, Inhabited

namespace OptionDefaults

def effective (defaults : OptionDefaults) (spec : PropertySpec) : EffectiveOptions where
  ignoreNull := spec.ignoreNull.getD defaults.ignoreNull
  ignoreEmpty := spec.ignoreEmpty.getD defaults.ignoreEmpty
  collectionHandling := spec.collectionHandling.getD defaults.collectionHandling
  useStringEmpty := spec.useStringEmpty.getD defaults.useStringEmpty
  isSourceArray := spec.isSourceArray.getD defaults.isSourceArray

def appliesToAll (defaults : OptionDefaults) (spec : PropertySpec) : Bool :=
  spec.applyToAllMethods.getD defaults.applyToAllMethods

def ignoresUnmarked (defaults : OptionDefaults) (marker : MarkerSpec) : Bool :=
  marker.ignoreUnmarked.getD defaults.ignoreUnmarked

def requiresExtensible (defaults : OptionDefaults) (marker : MarkerSpec) : Bool :=
  marker.extensibleTargetRequired.getD defaults.extensibleTargetRequired

end OptionDefaults

structure GeneratorConfig where
  defaultMethod : String := "to_update"
  runtimePath : String := "::docupdate"
  extensionSuffix : String := "UpdateExt"
  /-- Whether the sources are analysed side by side; the result does not depend on it. -/
  parallel : Bool := true
  defaults : OptionDefaults := {}
  deriving DecidableEq, Inhabited

namespace GeneratorConfig

def markerMethod (config : GeneratorConfig) (marker : MarkerSpec) : String :=
  marker.methodName.getD config.defaultMethod

end GeneratorConfig
end PartialUpdate
