import PartialUpdate.Decimal.Shortest
import PartialUpdate.Text.Quoted
import PartialUpdate.Update.Definition

/-!
# Descriptions

The text that shows a definition to a programmer: every operation by name with its path
and its values, every value with the name of its kind.
-/

namespace PartialUpdate

def commaSeparated (parts : List String) : String :=
  ", ".intercalate parts

namespace DocumentValue

/-- Doubles from a ten-thousandth up to ten to the sixteenth are written out in places. -/
def doubleLayout : DecimalLayout := ⟨-4, 15, false, true⟩

def subtypeNames : List (UInt8 × String) :=
  [(0, "Generic"), (1, "Function"), (2, "BinaryOld"), (3, "UuidOld"), (4, "Uuid"), (5, "Md5"),
    (6, "Encrypted"), (7, "Column"), (8, "Sensitive"), (9, "Vector")]

/-- Subtypes without a name are reserved in the lower half of their range. -/
def subtypeName (subtype : UInt8) : String :=
  match subtypeNames.lookup subtype with
  | some name => name
  | none =>
      (if subtype < 0x80 then "Reserved(" else "UserDefined(") ++ toString subtype ++ ")"

mutual

def describe : DocumentValue -> String
  | .null => "Null"
  | .bool value => "Boolean(" ++ toString value ++ ")"
  | .text value => "String(" ++ Quoted.encode value ++ ")"
  | .int32 value => "Int32(" ++ toString value ++ ")"
  | .int64 value => "Int64(" ++ toString value ++ ")"
  | .double bits => "Double(" ++ (DoubleForm.ofBits bits).text doubleLayout ++ ")"
  | .binary subtype bytes =>
      "Binary \x7b subtype: " ++ subtypeName subtype ++ ", bytes: ["
        ++ commaSeparated (bytes.map toString) ++ "] \x7d"
  | .array items => "Array([" ++ commaSeparated (describeItems items) ++ "])"
  | .document fields => "Document(\x7b" ++ commaSeparated (describeFields fields) ++ "\x7d)"

def describeItems : List DocumentValue -> List String
  | [] => []
  | value :: rest => describe value :: describeItems rest

def describeFields : List (String × DocumentValue) -> List String
  | [] => []
  | (name, value) :: rest =>
      (Quoted.encode name ++ ": " ++ describe value) :: describeFields rest

end

end DocumentValue

namespace UpdateOperation

def name : UpdateOperation -> String
  | .set .. => "Set"
  | .addToSet .. => "AddToSet"
  | .addToSetEach .. => "AddToSetEach"
  | .push .. => "Push"
  | .pushEach .. => "PushEach"
  | .pullAll .. => "PullAll"

def describeOperand : UpdateOperation -> String
  | .set _ value | .addToSet _ value | .push _ value => "value: " ++ value.describe
  | .addToSetEach _ values | .pushEach _ values | .pullAll _ values =>
      "values: [" ++ commaSeparated (DocumentValue.describeItems values) ++ "]"

def describe (operation : UpdateOperation) : String :=
  operation.name ++ " \x7b path: " ++ Quoted.encode operation.path ++ ", "
    ++ operation.describeOperand ++ " \x7d"

end UpdateOperation

namespace UpdateDefinition

/-- `target` names the type of the documents that the update applies to. -/
def describe (target : String) (update : UpdateDefinition) : String :=
  "UpdateDefinition \x7b target: " ++ Quoted.encode target ++ ", operations: ["
    ++ commaSeparated (update.operations.map UpdateOperation.describe) ++ "] \x7d"

end UpdateDefinition
end PartialUpdate
