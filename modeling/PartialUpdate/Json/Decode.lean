import PartialUpdate.Json.Printer
import PartialUpdate.Json.Reader
import PartialUpdate.Text.Quoted

/-!
# Decoding JSON data

A decoder looks at the data in the order of the text and reports the first thing that does
not fit: a fault of the text itself, or a mismatch with the type that is wanted.  An object
is read member by member; what it lacks is reported after its last member.
-/

namespace PartialUpdate

inductive JsonKind
  | null
  | bool (value : Bool)
  | integer (value : Int)
  | real (bits : UInt64)
  | string (value : String)
  | sequence
  | map

namespace JsonKind

def text : JsonKind -> String
  | .null => "null"
  | .bool value => "boolean `" ++ toString value ++ "`"
  | .integer value => "integer `" ++ toString value ++ "`"
  | .real bits => "floating point `" ++ (DoubleForm.ofBits bits).text Json.doubleLayout ++ "`"
  | .string value => "string " ++ Quoted.encode value
  | .sequence => "sequence"
  | .map => "map"

end JsonKind

inductive JsonMismatch
  | missingField (name : String)
  | duplicateField (name : String)
  | unknownVariant (name : String) (known : List String)
  | wrongKind (found : JsonKind) (expected : String)
  /-- Of the right kind, and yet no form of what is expected. -/
  | wrongForm (found : JsonKind) (expected : String)
  | tooFew (length : Nat) (expected : String)

inductive JsonError
  | fault (fault : JsonFault)
  | mismatch (mismatch : JsonMismatch)

namespace JsonMismatch

def backquoted (name : String) : String :=
  "`" ++ name ++ "`"

def message : JsonMismatch -> String
  | .missingField name => "missing field " ++ backquoted name
  | .duplicateField name => "duplicate field " ++ backquoted name
  | .unknownVariant name known =>
      "unknown variant " ++ backquoted name ++ ", expected one of "
        ++ ", ".intercalate (known.map backquoted)
  | .wrongKind found expected => "invalid type: " ++ found.text ++ ", expected " ++ expected
  | .wrongForm found expected => "invalid value: " ++ found.text ++ ", expected " ++ expected
  | .tooFew length expected => "invalid length " ++ toString length ++ ", expected " ++ expected

end JsonMismatch

abbrev JsonResult (α : Type) := Except JsonError α

namespace Json

def mismatched {α : Type} (expected : String) (json : Json) : JsonResult α :=
  let wrong := fun kind => .error (.mismatch (.wrongKind kind expected))
  match json with
  | .null => wrong .null
  | .bool value => wrong (.bool value)
  | .number (.natural value) => wrong (.integer value)
  | .number (.negative value) => wrong (.integer (-(value + 1 : Int)))
  | .number (.real bits) => wrong (.real bits)
  | .number .outOfRange | .unpaired _ => .error (.fault .malformed)
  | .string value => wrong (.string value)
  | .array .. => wrong .sequence
  | .object .. => wrong .map
  | .brokenString fault | .broken fault => .error (.fault fault)
  | .missing => .error (.fault .ended)

def asBool : Json -> JsonResult Bool
  | .bool value => .ok value
  | other => mismatched "a boolean" other

def asString : Json -> JsonResult String
  | .string value => .ok value
  | other => mismatched "a string" other

def asOption {α : Type} (decode : Json -> JsonResult α) : Json -> JsonResult (Option α)
  | .null => .ok none
  | other => some <$> decode other

def noFault : Option JsonFault -> JsonResult Unit
  | none => .ok ()
  | some fault => .error (.fault fault)

def asList {α : Type} (decode : Json -> JsonResult α) : Json -> JsonResult (List α)
  | .array items fault => do
      let values ← items.mapM decode
      noFault fault
      return values
  | other => mismatched "a sequence" other

/-- One of several names, written as a string or as the only key of an object with nothing
under it.  Other values are not looked at. -/
def asVariant {α : Type} (variants : List (String × α)) : Json -> JsonResult α
  | .string name => named name
  | .object ((key, value) :: rest) fault => do
      let variant ← ofKey key
      match value with
      | .null => pure ()
      | other => mismatched "unit" other
      match rest, fault with
      | [], none => return variant
      | [], some fault => .error (.fault fault)
      | _ :: _, _ => .error (.fault .malformed)
  | .object [] (some fault) | .brokenString fault => .error (.fault fault)
  | .missing => .error (.fault .ended)
  | _ => .error (.fault .malformed)
where
  named (name : String) : JsonResult α :=
    match variants.lookup name with
    | some value => .ok value
    | none => .error (.mismatch (.unknownVariant name (variants.map Prod.fst)))
  ofKey : JsonKey -> JsonResult α
    | .text name => named name
    | .unpaired => .error (.fault .malformed)
    | .other value => mismatched "variant identifier" value
    | .missing => .error (.fault .ended)

def textMembers (members : List (JsonKey × Json)) : List (String × Json) :=
  members.filterMap (fun (key, value) =>
    match key with
    | .text name => some (name, value)
    | _ => none)

def asName : JsonKey -> JsonResult String
  | .text name => .ok name
  | key => .error (.fault (key.fault.getD .malformed))

/-!
# Records

A record is written as an object, whose unknown members are passed over, or as an array of
its fields in order.
-/

structure FieldRule where
  name : String
  required : Bool
  check : Json -> JsonResult Unit

def field {α : Type} (name : String) (required : Bool) (decode : Json -> JsonResult α) :
    FieldRule where
  name := name
  required := required
  check := fun json => do let _ ← decode json

abbrev FieldData := List (String × Json)

def checkMembers (rules : List FieldRule) (seen : List String) :
    List (JsonKey × Json) -> JsonResult Unit
  | [] => .ok ()
  | (key, value) :: rest => do
      let name ← asName key
      match rules.find? (fun rule => rule.name == name) with
      | none =>
          noFault (firstSkippedFault value)
          checkMembers rules seen rest
      | some rule =>
          if seen.contains name then throw (.mismatch (.duplicateField name))
          rule.check value
          checkMembers rules (name :: seen) rest

def checkItems (expected : String) : Nat -> List FieldRule -> List Json -> Option JsonFault ->
    JsonResult Unit
  | _, [], [], fault => noFault fault
  | _, [], _ :: _, _ => .error (.fault .malformed)
  | index, rule :: rules, [], fault => do
      noFault fault
      if rule.required then throw (.mismatch (.tooFew index expected))
      checkItems expected (index + 1) rules [] fault
  | index, rule :: rules, item :: items, fault => do
      rule.check item
      checkItems expected (index + 1) rules items fault

def countText (n : Nat) : String :=
  toString n ++ (if n == 1 then " element" else " elements")

def asRecord (name : String) (rules : List FieldRule) : Json -> JsonResult FieldData
  | .object members fault => do
      checkMembers rules [] members
      noFault fault
      let data := textMembers members
      match rules.find? (fun rule => rule.required && !data.any (·.1 == rule.name)) with
      | some rule => throw (.mismatch (.missingField rule.name))
      | none => return data
  | .array items fault => do
      let expected := "struct " ++ name ++ " with " ++ countText rules.length
      checkItems expected 0 rules items fault
      return (rules.map FieldRule.name).zip items
  | other => mismatched ("struct " ++ name) other

namespace FieldData

def required {α : Type} (data : FieldData) (name : String) (decode : Json -> JsonResult α) :
    JsonResult α :=
  match data.lookup name with
  | some json => decode json
  | none => .error (.mismatch (.missingField name))

def optional {α : Type} (data : FieldData) (name : String) (default : α)
    (decode : Json -> JsonResult α) : JsonResult α :=
  match data.lookup name with
  | some json => decode json
  | none => .ok default

end FieldData

/-- Decodes a whole text: nothing but space may follow the value. -/
def decodeText {α : Type} (decode : Json -> JsonResult α) (text : String) : JsonResult α := do
  let (json, fault) := read text
  let value ← decode json
  noFault fault
  return value

end Json
end PartialUpdate
