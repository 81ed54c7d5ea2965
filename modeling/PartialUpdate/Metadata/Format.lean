import PartialUpdate.Configuration
import PartialUpdate.Json.Decode
import PartialUpdate.Json.Printer
import PartialUpdate.Metadata.Table

/-!
# The JSON form of metadata

Types, members, specs and configurations as JSON data.  Options that are left out may be
missing or `null`; a type table is the array of its types.
-/

namespace PartialUpdate

open Json (ofMembers ofOption ofList field asBool asString asOption asList asRecord mismatched)

/-!
# Specs
-/

namespace CollectionHandling

def toJson (handling : CollectionHandling) : Json :=
  .string handling.name

def ofJson : Json -> JsonResult CollectionHandling :=
  Json.asVariant named

end CollectionHandling

namespace MarkerSpec

def toJson (spec : MarkerSpec) : Json :=
  ofMembers [
    ("target_type", .string spec.targetType),
    ("method_name", ofOption .string spec.methodName),
    ("ignore_unmarked_properties", ofOption .bool spec.ignoreUnmarked),
    ("extensible_target_required", ofOption .bool spec.extensibleTargetRequired),
    ("nested_path", ofOption .string spec.nestedPath)]

def ofJson (json : Json) : JsonResult MarkerSpec := do
  let data ← asRecord "MarkerSpec" [
    field "target_type" true asString,
    field "method_name" false (asOption asString),
    field "ignore_unmarked_properties" false (asOption asBool),
    field "extensible_target_required" false (asOption asBool),
    field "nested_path" false (asOption asString)] json
  return {
    targetType := ← data.required "target_type" asString
    methodName := ← data.optional "method_name" none (asOption asString)
    ignoreUnmarked := ← data.optional "ignore_unmarked_properties" none (asOption asBool)
    extensibleTargetRequired :=
      ← data.optional "extensible_target_required" none (asOption asBool)
    nestedPath := ← data.optional "nested_path" none (asOption asString) }

end MarkerSpec

namespace PropertySpec

def toJson (spec : PropertySpec) : Json :=
  ofMembers [
    ("target_property_name", ofOption .string spec.targetName),
    ("method_name", ofOption .string spec.methodName),
    ("ignore_null", ofOption .bool spec.ignoreNull),
    ("ignore_empty", ofOption .bool spec.ignoreEmpty),
    ("collection_handling", ofOption CollectionHandling.toJson spec.collectionHandling),
    ("apply_to_all_methods", ofOption .bool spec.applyToAllMethods),
    ("use_string_empty", ofOption .bool spec.useStringEmpty),
    ("is_source_array", ofOption .bool spec.isSourceArray),
    ("append_source_expression", ofOption .string spec.expression)]

def ofJson (json : Json) : JsonResult PropertySpec := do
  let data ← asRecord "PropertySpec" [
    field "target_property_name" false (asOption asString),
    field "method_name" false (asOption asString),
    field "ignore_null" false (asOption asBool),
    field "ignore_empty" false (asOption asBool),
    field "collection_handling" false (asOption CollectionHandling.ofJson),
    field "apply_to_all_methods" false (asOption asBool),
    field "use_string_empty" false (asOption asBool),
    field "is_source_array" false (asOption asBool),
    field "append_source_expression" false (asOption asString)] json
  return {
    targetName := ← data.optional "target_property_name" none (asOption asString)
    methodName := ← data.optional "method_name" none (asOption asString)
    ignoreNull := ← data.optional "ignore_null" none (asOption asBool)
    ignoreEmpty := ← data.optional "ignore_empty" none (asOption asBool)
    collectionHandling :=
      ← data.optional "collection_handling" none (asOption CollectionHandling.ofJson)
    applyToAllMethods := ← data.optional "apply_to_all_methods" none (asOption asBool)
    useStringEmpty := ← data.optional "use_string_empty" none (asOption asBool)
    isSourceArray := ← data.optional "is_source_array" none (asOption asBool)
    expression := ← data.optional "append_source_expression" none (asOption asString) }

end PropertySpec

/-!
# Member types

The kind of a type and what it is of stand beside its nullability in one object, in any
order.  The whole object is read before the kind is looked at.
-/

mutual

def TypeRef.toJson : TypeRef -> Json
  | ⟨nullable, kind⟩ => ofMembers (("nullable", .bool nullable) :: TypeKind.jsonMembers kind)

def TypeKind.jsonMembers : TypeKind -> List (String × Json)
  | .scalar name => [("kind", .string "scalar"), ("of", .string name)]
  | .text => [("kind", .string "string")]
  | .sequence element => [("kind", .string "sequence"), ("of", TypeRef.toJson element)]
  | .map value => [("kind", .string "map"), ("of", TypeRef.toJson value)]
  | .named name => [("kind", .string "named"), ("of", .string name)]
  | .unclassified text => [("kind", .string "opaque"), ("of", .string text)]

end

namespace TypeKind

/-- The kinds by name, before it is known what they are of. -/
inductive Tag
  | scalar | text | sequence | map | named | unclassified

def tags : List (String × Tag) :=
  [("scalar", .scalar), ("string", .text), ("sequence", .sequence), ("map", .map),
    ("named", .named), ("opaque", .unclassified)]

def tagNamed (name : String) : JsonResult Tag :=
  match tags.lookup name with
  | some tag => .ok tag
  | none => .error (.mismatch (.unknownVariant name (tags.map Prod.fst)))

def tagOfJson : Json -> JsonResult Tag
  | .string name => tagNamed name
  | .object [(.text name, value)] _ => do
      let tag ← tagNamed name
      match value with
      | .null | .object [] _ => return tag
      | other => mismatched "unit" other
  | .object .. => .error (.mismatch (.wrongForm .map "map with a single key"))
  | other => mismatched "string or map" other

end TypeKind

namespace TypeRef

/-- Reads the members of the object up to its end; the value is the nullability, if given. -/
def checkMembers (depth : Nat) (nullable : Option Bool) :
    List (JsonKey × Json) -> JsonResult (Option Bool)
  | [] => .ok nullable
  | (key, value) :: rest => do
      if (← Json.asName key) == "nullable" then
        if nullable.isSome then throw (.mismatch (.duplicateField "nullable"))
        checkMembers depth (some (← asBool value)) rest
      else do
        Json.noFault (Json.firstFault depth value)
        checkMembers depth nullable rest

def duplicate {α : Type} (name : String) : JsonResult α :=
  .error (.mismatch (.duplicateField name))

def missing {α : Type} (name : String) : JsonResult α :=
  .error (.mismatch (.missingField name))

mutual

/-- `fuel` bounds the nesting; `depth` containers are open. -/
def ofJsonWithin : Nat -> Nat -> Json -> JsonResult TypeRef
  | 0, _, _ => .error (.fault .malformed)
  | fuel + 1, depth, .object members fault => do
      let nullable ← checkMembers (depth + 1) none members
      Json.noFault fault
      let kind ← kindWithin fuel (depth + 1)
        ((Json.textMembers members).filter
          (fun member => member.1 == "kind" || member.1 == "of"))
      return ⟨nullable.getD false, kind⟩
  | _ + 1, _, other => mismatched "struct TypeRef" other

def kindWithin : Nat -> Nat -> List (String × Json) -> JsonResult TypeKind
  | 0, _, _ => .error (.fault .malformed)
  | _ + 1, _, [] => missing "kind"
  | fuel + 1, depth, (first, value) :: rest =>
      if first == "kind" then do
        let tag ← TypeKind.tagOfJson value
        match rest with
        | [] =>
            match tag with
            | .text => return .text
            | _ => missing "of"
        | (second, content) :: rest =>
            if second == "kind" then duplicate "kind"
            else do
              let kind ← contentWithin fuel depth tag content
              match rest with
              | [] => return kind
              | (third, _) :: _ => duplicate third
      else
        match rest with
        | [] => missing "kind"
        | (second, name) :: rest =>
            if second == "of" then duplicate "of"
            else do
              let tag ← TypeKind.tagOfJson name
              let kind ← contentWithin fuel depth tag value
              match rest with
              | [] => return kind
              | (third, _) :: _ => duplicate third

def contentWithin : Nat -> Nat -> TypeKind.Tag -> Json -> JsonResult TypeKind
  | 0, _, _, _ => .error (.fault .malformed)
  | _ + 1, _, .scalar, json => .scalar <$> asString json
  | _ + 1, _, .text, .null => .ok .text
  | _ + 1, _, .text, other => mismatched "unit variant TypeKind::String" other
  | fuel + 1, depth, .sequence, json => .sequence <$> ofJsonWithin fuel depth json
  | fuel + 1, depth, .map, json => .map <$> ofJsonWithin fuel depth json
  | _ + 1, _, .named, json => .named <$> asString json
  | _ + 1, _, .unclassified, json => .unclassified <$> asString json

end

/-- Containers open around a member type in the text of a type table. -/
def enclosingContainers : Nat := 4

/-- Three steps for each container that may be open. -/
def ofJson : Json -> JsonResult TypeRef :=
  ofJsonWithin (3 * Json.depthLimit + 3) enclosingContainers

end TypeRef

/-!
# Members, types and tables
-/

namespace MemberInfo

def toJson (member : MemberInfo) : Json :=
  ofMembers [
    ("name", .string member.name),
    ("stored_name", .string member.storedName),
    ("ty", member.type.toJson),
    ("public", .bool member.isPublic),
    ("skipped", .bool member.skipped),
    ("excluded", .bool member.excluded),
    ("specs", ofList (member.specs.map PropertySpec.toJson))]

def ofJson (json : Json) : JsonResult MemberInfo := do
  let data ← asRecord "MemberInfo" [
    field "name" true asString,
    field "stored_name" true asString,
    field "ty" true TypeRef.ofJson,
    field "public" false asBool,
    field "skipped" false asBool,
    field "excluded" false asBool,
    field "specs" false (asList PropertySpec.ofJson)] json
  return {
    name := ← data.required "name" asString
    storedName := ← data.required "stored_name" asString
    type := ← data.required "ty" TypeRef.ofJson
    isPublic := ← data.optional "public" false asBool
    skipped := ← data.optional "skipped" false asBool
    excluded := ← data.optional "excluded" false asBool
    specs := ← data.optional "specs" [] (asList PropertySpec.ofJson) }

end MemberInfo

namespace TypeInfo

def toJson (info : TypeInfo) : Json :=
  ofMembers [
    ("name", .string info.name),
    ("members", ofList (info.members.map MemberInfo.toJson)),
    ("methods", ofList (info.methods.map .string)),
    ("extensible", .bool info.extensible),
    ("markers", ofList (info.markers.map MarkerSpec.toJson)),
    ("type_specs", ofList (info.typeSpecs.map PropertySpec.toJson))]

def ofJson (json : Json) : JsonResult TypeInfo := do
  let data ← asRecord "TypeInfo" [
    field "name" true asString,
    field "members" false (asList MemberInfo.ofJson),
    field "methods" false (asList asString),
    field "extensible" false asBool,
    field "markers" false (asList MarkerSpec.ofJson),
    field "type_specs" false (asList PropertySpec.ofJson)] json
  return {
    name := ← data.required "name" asString
    members := ← data.optional "members" [] (asList MemberInfo.ofJson)
    methods := ← data.optional "methods" [] (asList asString)
    extensible := ← data.optional "extensible" false asBool
    markers := ← data.optional "markers" [] (asList MarkerSpec.ofJson)
    typeSpecs := ← data.optional "type_specs" [] (asList PropertySpec.ofJson) }

end TypeInfo

namespace TypeTable

def toJson (table : TypeTable) : Json :=
  ofList (table.types.map TypeInfo.toJson)

/-- Types of one name are kept as they stand. -/
def ofJson (json : Json) : JsonResult TypeTable := do
  return ⟨← asList TypeInfo.ofJson json⟩

def toText (table : TypeTable) : String :=
  table.toJson.pretty

def ofText (text : String) : JsonResult TypeTable :=
  Json.decodeText ofJson text

end TypeTable

/-!
# Configurations
-/

namespace EffectiveOptions

def toJson (options : EffectiveOptions) : Json :=
  ofMembers [
    ("ignore_null", .bool options.ignoreNull),
    ("ignore_empty", .bool options.ignoreEmpty),
    ("collection_handling", options.collectionHandling.toJson),
    ("use_string_empty", .bool options.useStringEmpty),
    ("is_source_array", .bool options.isSourceArray)]

end EffectiveOptions

namespace OptionDefaults

def toJson (defaults : OptionDefaults) : Json :=
  ofMembers [
    ("ignore_null", .bool defaults.ignoreNull),
    ("ignore_empty", .bool defaults.ignoreEmpty),
    ("collection_handling", defaults.collectionHandling.toJson),
    ("use_string_empty", .bool defaults.useStringEmpty),
    ("apply_to_all_methods", .bool defaults.applyToAllMethods),
    ("is_source_array", .bool defaults.isSourceArray),
    ("ignore_unmarked_properties", .bool defaults.ignoreUnmarked),
    ("extensible_target_required", .bool defaults.extensibleTargetRequired)]

def ofJson (json : Json) : JsonResult OptionDefaults := do
  let data ← asRecord "OptionDefaults" [
    field "ignore_null" false asBool,
    field "ignore_empty" false asBool,
    field "collection_handling" false CollectionHandling.ofJson,
    field "use_string_empty" false asBool,
    field "apply_to_all_methods" false asBool,
    field "is_source_array" false asBool,
    field "ignore_unmarked_properties" false asBool,
    field "extensible_target_required" false asBool] json
  let standard : OptionDefaults := {}
  return {
    ignoreNull := ← data.optional "ignore_null" standard.ignoreNull asBool
    ignoreEmpty := ← data.optional "ignore_empty" standard.ignoreEmpty asBool
    collectionHandling :=
      ← data.optional "collection_handling" standard.collectionHandling CollectionHandling.ofJson
    useStringEmpty := ← data.optional "use_string_empty" standard.useStringEmpty asBool
    applyToAllMethods :=
      ← data.optional "apply_to_all_methods" standard.applyToAllMethods asBool
    isSourceArray := ← data.optional "is_source_array" standard.isSourceArray asBool
    ignoreUnmarked :=
      ← data.optional "ignore_unmarked_properties" standard.ignoreUnmarked asBool
    extensibleTargetRequired :=
      ← data.optional "extensible_target_required" standard.extensibleTargetRequired asBool }

end OptionDefaults

namespace GeneratorConfig

def toJson (config : GeneratorConfig) : Json :=
  ofMembers [
    ("default_method", .string config.defaultMethod),
    ("runtime_path", .string config.runtimePath),
    ("extension_suffix", .string config.extensionSuffix),
    ("parallel", .bool config.parallel),
    ("defaults", config.defaults.toJson)]

def ofJson (json : Json) : JsonResult GeneratorConfig := do
  let data ← asRecord "GeneratorConfig" [
    field "default_method" false asString,
    field "runtime_path" false asString,
    field "extension_suffix" false asString,
    field "parallel" false asBool,
    field "defaults" false OptionDefaults.ofJson] json
  let standard : GeneratorConfig := {}
  return {
    defaultMethod := ← data.optional "default_method" standard.defaultMethod asString
    runtimePath := ← data.optional "runtime_path" standard.runtimePath asString
    extensionSuffix := ← data.optional "extension_suffix" standard.extensionSuffix asString
    parallel := ← data.optional "parallel" standard.parallel asBool
    defaults := ← data.optional "defaults" standard.defaults OptionDefaults.ofJson }

end GeneratorConfig
end PartialUpdate
