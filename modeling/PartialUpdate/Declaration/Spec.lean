import PartialUpdate.Configuration
import PartialUpdate.Declaration.Key

/-!
# Declarations

The attributes that declare updates: markers on source types, specs on properties and types,
targets that take functions, and the settings of a module.
-/

namespace PartialUpdate

open DeclarationKey ValueReader

namespace MarkerSpec

def keys : List (DeclarationKey MarkerSpec) := [
  ofReader "target" typeName (fun target marker => { marker with targetType := target }),
  ofReader "method" text (fun name marker => { marker with methodName := some name }),
  ofReader "ignore_unmarked" truth
    (fun ignored marker => { marker with ignoreUnmarked := some ignored }),
  ofReader "extensible" truth
    (fun required marker => { marker with extensibleTargetRequired := some required }),
  ofReader "nested" text (fun path marker => { marker with nestedPath := some path })]

/-- A marker has to name its target. -/
def ofContent : AttributeContent -> Except DeclarationError MarkerSpec :=
  readContent keys ["target"] { targetType := "" } (.error (DeclarationError.of (.wrongForm .word)))

end MarkerSpec

namespace PropertySpec

def keys : List (DeclarationKey PropertySpec) := [
  ofReader "target" text (fun path spec => { spec with targetName := some path }),
  ofReader "method" text (fun name spec => { spec with methodName := some name }),
  ofReader "ignore_null" truth (fun ignored spec => { spec with ignoreNull := some ignored }),
  ofReader "ignore_empty" truth (fun ignored spec => { spec with ignoreEmpty := some ignored }),
  ofReader "handling" handling
    (fun handling spec => { spec with collectionHandling := some handling }),
  ofReader "all_methods" truth (fun all spec => { spec with applyToAllMethods := some all }),
  ofReader "use_string_empty" truth (fun used spec => { spec with useStringEmpty := some used }),
  ofReader "source_array" truth (fun array spec => { spec with isSourceArray := some array }),
  ofReader "expr" text (fun written spec => { spec with expression := some written })]

def ofContent : AttributeContent -> Except DeclarationError PropertySpec :=
  readContent keys [] {} (.ok {})

end PropertySpec

structure TargetSpec where
  extensible : Bool := false
  deriving DecidableEq, Inhabited

namespace TargetSpec

def keys : List (DeclarationKey TargetSpec) := [
  ofReader "extensible" flag (fun given _ => ⟨given⟩)]

def ofContent : AttributeContent -> Except DeclarationError TargetSpec :=
  readContent keys [] {} (.ok {})

end TargetSpec

namespace GeneratorConfig

def keys : List (DeclarationKey GeneratorConfig) := [
  ofReader "method" text (fun name config => { config with defaultMethod := name }),
  ofReader "runtime" text (fun path config => { config with runtimePath := path }),
  ofReader "suffix" text (fun suffix config => { config with extensionSuffix := suffix }),
  ofReader "sequential" truth (fun alone config => { config with parallel := !alone })]

def ofArguments (tokens : List Token) : Except DeclarationError GeneratorConfig :=
  readList keys [] {} tokens

end GeneratorConfig
end PartialUpdate
