import PartialUpdate.Analysis
import PartialUpdate.Metadata.Format

/-!
# The JSON form of results

Diagnostics and update methods as they are handed to tools.
-/

namespace PartialUpdate

open Json (ofMembers ofOption ofList)

namespace Location

def toJson (location : Location) : Json :=
  ofMembers [
    ("source_type", .string location.sourceType),
    ("member", ofOption .string location.member),
    ("target_type", ofOption .string location.targetType),
    ("method", ofOption .string location.method)]

end Location

/-!
# Diagnostics
-/

namespace Problem

def details : Problem -> String × List (String × String)
  | .collectionHandlingNotApplicable property handling =>
      ("collection_handling_not_applicable",
        [("property", property), ("handling", handling.name)])
  | .ignoreEmptyNotApplicable property => ("ignore_empty_not_applicable", [("property", property)])
  | .methodNameAlreadyExists method owner =>
      ("method_name_already_exists", [("method", method), ("owner", owner)])
  | .collectionHandlingNotSupported property handling reason =>
      ("collection_handling_not_supported",
        [("property", property), ("handling", handling.name), ("reason", reason)])
  | .useStringEmptyNotApplicable property =>
      ("use_string_empty_not_applicable", [("property", property)])
  | .extensibleTargetMissing target method =>
      ("extensible_target_missing", [("target", target), ("method", method)])
  | .ignoreNullNotApplicable property => ("ignore_null_not_applicable", [("property", property)])
  | .propertyNotFound property target =>
      ("property_not_found", [("property", property), ("target", target)])
  | .propertyNotEnumerable property target =>
      ("property_not_enumerable", [("property", property), ("target", target)])
  | .isSourceArrayNotApplicable => ("is_source_array_not_applicable", [])
  | .targetPropertyNameMissing => ("target_property_name_missing", [])
  | .targetTypeNotFound target => ("target_type_not_found", [("target", target)])
  | .invalidNestedProperty path target =>
      ("invalid_nested_property", [("path", path), ("target", target)])
  | .duplicateMethod method target =>
      ("duplicate_method", [("method", method), ("target", target)])
  | .duplicateTargetPath path method =>
      ("duplicate_target_path", [("path", path), ("method", method)])
  | .invalidIdentifier name => ("invalid_identifier", [("name", name)])
  | .unknownMethod method => ("unknown_method", [("method", method)])
  | .invalidSourceExpression property reason =>
      ("invalid_source_expression", [("property", property), ("reason", reason)])

def toJson (problem : Problem) : Json :=
  let (kind, fields) := problem.details
  ofMembers (("kind", .string kind) :: fields.map (fun field => (field.1, .string field.2)))

end Problem

namespace Diagnostic

def toJson (diagnostic : Diagnostic) : Json :=
  ofMembers [
    ("code", .string diagnostic.problem.code),
    ("severity", .string diagnostic.severity.name),
    ("is_error", .bool diagnostic.isError),
    ("message", .string diagnostic.problem.message),
    ("display", .string diagnostic.display),
    ("kind", diagnostic.problem.toJson),
    ("location", diagnostic.location.toJson)]

end Diagnostic

/-!
# Update methods
-/

namespace BindingSource

def toJson : BindingSource -> Json
  | .property name type =>
      ofMembers [("from", .string "property"), ("name", .string name), ("ty", type.toJson)]
  | .whole => ofMembers [("from", .string "instance")]

end BindingSource

namespace TypeRef

def factsToJson (type : TypeRef) : Json :=
  ofMembers [
    ("is_collection", .bool type.isCollection),
    ("is_nullable_or_reference", .bool type.nullable),
    ("is_string", .bool type.isText),
    ("ty", type.toJson)]

end TypeRef

namespace PropertyBinding

def toJson (binding : PropertyBinding) : Json :=
  ofMembers [
    ("order", .number (.natural binding.order)),
    ("source", binding.source.toJson),
    ("resolved_target_path", .string binding.target.path),
    ("options", binding.options.toJson),
    ("facts", binding.target.type.factsToJson),
    ("expression", ofOption .string binding.expression),
    ("location", binding.location.toJson)]

end PropertyBinding

namespace UpdateMethod

def toJson (method : UpdateMethod) : Json :=
  ofMembers [
    ("source_type", .string method.sourceType),
    ("target_type_name", .string method.targetType),
    ("method_name", .string method.methodName),
    ("bindings", ofList (method.bindings.map PropertyBinding.toJson)),
    ("requires_extensible_target", .bool method.inherent),
    ("location", method.location.toJson)]

end UpdateMethod
end PartialUpdate
