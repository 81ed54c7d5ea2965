import PartialUpdate.Metadata.Spec

/-!
# Diagnostics

A problem with declared updates, and where it was met.  An error keeps the method it points
at from being generated; a warning changes nothing.
-/

namespace PartialUpdate

inductive Severity
  | warning
  | error
  deriving DecidableEq

namespace Severity

def name : Severity -> String
  | .warning => "warning"
  | .error => "error"

end Severity

inductive Problem
  | collectionHandlingNotApplicable (property : String) (handling : CollectionHandling)
  | ignoreEmptyNotApplicable (property : String)
  | methodNameAlreadyExists (method owner : String)
  | collectionHandlingNotSupported (property : String) (handling : CollectionHandling)
      (reason : String)
  | useStringEmptyNotApplicable (property : String)
  | extensibleTargetMissing (target method : String)
  | ignoreNullNotApplicable (property : String)
  | propertyNotFound (property target : String)
  | propertyNotEnumerable (property target : String)
  | isSourceArrayNotApplicable
  | targetPropertyNameMissing
  | targetTypeNotFound (target : String)
  | invalidNestedProperty (path target : String)
  | duplicateMethod (method target : String)
  | duplicateTargetPath (path method : String)
  | invalidIdentifier (name : String)
  | unknownMethod (method : String)
  | invalidSourceExpression (property reason : String)
  deriving DecidableEq

namespace Problem

def code : Problem -> String
  | .collectionHandlingNotApplicable .. => "UPD001"
  | .ignoreEmptyNotApplicable .. => "UPD002"
  | .methodNameAlreadyExists .. => "UPD003"
  | .collectionHandlingNotSupported .. => "UPD004"
  | .useStringEmptyNotApplicable .. => "UPD005"
  | .extensibleTargetMissing .. => "UPD006"
  | .ignoreNullNotApplicable .. => "UPD007"
  | .propertyNotFound .. => "UPD008"
  | .propertyNotEnumerable .. => "UPD009"
  | .isSourceArrayNotApplicable => "UPD010"
  | .targetPropertyNameMissing => "UPD011"
  | .targetTypeNotFound .. => "UPD012"
  | .invalidNestedProperty .. => "UPD013"
  | .duplicateMethod .. => "UPD014"
  | .duplicateTargetPath .. => "UPD015"
  | .invalidIdentifier .. => "UPD016"
  | .unknownMethod .. => "UPD017"
  | .invalidSourceExpression .. => "UPD018"

def severity : Problem -> Severity
  | .unknownMethod .. => .warning
  | _ => .error

def backquoted (text : String) : String :=
  "`" ++ text ++ "`"

def message : Problem -> String
  | .collectionHandlingNotApplicable property handling =>
      "`handling = \"" ++ handling.name ++ "\"` is only applicable to collection properties, but "
        ++ backquoted property ++ " is not a collection"
  | .ignoreEmptyNotApplicable property =>
      "`ignore_empty` is only applicable to collection or string properties, but "
        ++ backquoted property ++ " is neither"
  | .methodNameAlreadyExists method owner =>
      "a member named " ++ backquoted method ++ " already exists on " ++ backquoted owner
  | .collectionHandlingNotSupported property handling reason =>
      backquoted handling.name ++ " is not supported for " ++ backquoted property ++ ": " ++ reason
  | .useStringEmptyNotApplicable property =>
      "`use_string_empty` is only applicable to string properties, but "
        ++ backquoted property ++ " is not a string"
  | .extensibleTargetMissing target method =>
      backquoted target ++ " must be declared with `#[update_target(extensible)]` to receive the "
        ++ "generated " ++ backquoted method
  | .ignoreNullNotApplicable property =>
      "`ignore_null` is only applicable to nullable (`Option`) properties, but "
        ++ backquoted property ++ " is not nullable"
  | .propertyNotFound property target =>
      "property " ++ backquoted property ++ " not found in the target type " ++ backquoted target
  | .propertyNotEnumerable property target =>
      "property " ++ backquoted property ++ " of " ++ backquoted target
        ++ " is not a collection but the source value is"
  | .isSourceArrayNotApplicable =>
      "`source_array` is only applicable to `#[update_property]` placed on the type"
  | .targetPropertyNameMissing =>
      "`target` is missing; it must be set when `#[update_property]` is placed on the type"
  | .targetTypeNotFound target =>
      "target type " ++ backquoted target ++ " not found in this module"
  | .invalidNestedProperty path target =>
      "nested property " ++ backquoted path ++ " is not found in the target type "
        ++ backquoted target
  | .duplicateMethod method target =>
      "update method " ++ backquoted method ++ " for " ++ backquoted target
        ++ " is declared more than once"
  | .duplicateTargetPath path method =>
      "target path " ++ backquoted path ++ " is written more than once by " ++ backquoted method
  | .invalidIdentifier name => backquoted name ++ " is not a valid Rust identifier"
  | .unknownMethod method =>
      "`method = \"" ++ method ++ "\"` does not match any `#[update]` marker on this type; "
        ++ "the attribute is ignored"
  | .invalidSourceExpression property reason =>
      "`expr` of " ++ backquoted property ++ " is not valid Rust: " ++ reason

end Problem

/-!
# Places
-/

structure Location where
  sourceType : String
  member : Option String := none
  targetType : Option String := none
  method : Option String := none
  deriving DecidableEq, Inhabited

namespace Location

def source (sourceType : String) : Location := { sourceType }

def withMember (location : Location) (member : Option String) : Location :=
  { location with member }

def withMethod (location : Location) (target method : String) : Location :=
  { location with targetType := some target, method := some method }

def display (location : Location) : String :=
  let member :=
    match location.member with
    | some member => "." ++ member
    | none => ""
  let pair :=
    match location.targetType, location.method with
    | some target, some method => " (" ++ target ++ "::" ++ method ++ ")"
    | _, _ => ""
  location.sourceType ++ member ++ pair

end Location

/-!
# Reports and their order
-/

structure Diagnostic where
  problem : Problem
  location : Location
  deriving DecidableEq

namespace Diagnostic

def severity (diagnostic : Diagnostic) : Severity := diagnostic.problem.severity

def isError (diagnostic : Diagnostic) : Bool := diagnostic.severity = .error

def display (diagnostic : Diagnostic) : String :=
  diagnostic.severity.name ++ "[" ++ diagnostic.problem.code ++ "]: "
    ++ diagnostic.problem.message ++ " (at " ++ diagnostic.location.display ++ ")"

end Diagnostic

namespace Ordered

def textLe (a b : String) : Bool := a <= b

/-- An absent text comes before every text. -/
def optionLe : Option String -> Option String -> Bool
  | none, _ => true
  | some _, none => false
  | some a, some b => textLe a b

def keyLe (a b : Option String × Option String × String) : Bool :=
  if a.1 = b.1 then
    if a.2.1 = b.2.1 then textLe a.2.2 b.2.2 else optionLe a.2.1 b.2.1
  else optionLe a.1 b.1

end Ordered

namespace Diagnostic

def sortKey (diagnostic : Diagnostic) : Option String × Option String × String :=
  (diagnostic.location.targetType, diagnostic.location.method, diagnostic.location.sourceType)

/-- Sorts by target, method and source; reports with one key keep their order. -/
def sort (diagnostics : List Diagnostic) : List Diagnostic :=
  diagnostics.mergeSort (fun a b => Ordered.keyLe a.sortKey b.sortKey)

end Diagnostic
end PartialUpdate
