import PartialUpdate.Document.Spelling

/-!
# Values to be stored

The values that a program hands to the store, by their structure, and the document value
that each becomes.  Some have none: whole numbers beyond the store's widths, maps whose keys
are no texts, and values that refuse.
-/

namespace PartialUpdate

inductive IntWidth
  | i8 | i16 | i32 | i64 | i128
  | u8 | u16 | u32 | u64 | u128
  deriving DecidableEq

inductive Datum
  | unit
  | bool (value : Bool)
  | text (value : String)
  | int (width : IntWidth) (value : Int)
  | single (bits : UInt32)
  | double (bits : UInt64)
  | char (value : Char)
  | bytes (value : List UInt8)
  | absent
  | present (value : Datum)
  | items (values : List Datum)
  | map (entries : List (Datum × Datum))
  | record (fields : List (String × Datum))
  | wrapped (value : Datum)
  | unitVariant (name : String)
  | wrappedVariant (name : String) (value : Datum)
  | itemsVariant (name : String) (values : List Datum)
  | recordVariant (name : String) (fields : List (String × Datum))
  | refusing (message : String)

inductive SerializeError
  | unsignedTooLarge (value : Int)
  | unsupportedWidth (width : IntWidth)
  | keyNotText (kind : String)
  | refused (message : String)
  deriving DecidableEq

namespace SerializeError

def message : SerializeError -> String
  | .unsignedTooLarge value =>
      "BSON error. Kind: Unsigned integer " ++ toString value ++ " cannot fit into BSON."
  | .unsupportedWidth .i128 => custom "i128 is not supported"
  | .unsupportedWidth _ => custom "u128 is not supported"
  | .keyNotText kind => custom ("invalid document key type: " ++ kind)
  | .refused message => custom message
where
  custom (text : String) : String :=
    "BSON error. Kind: A serialization error occurred. Message: " ++ text ++ "."

end SerializeError

namespace DocumentValue

def kindName : DocumentValue -> String
  | .null => "null"
  | .bool _ => "boolean"
  | .text _ => "string"
  | .int32 _ => "int32"
  | .int64 _ => "int64"
  | .double _ => "double"
  | .binary .. => "binary"
  | .array _ => "array"
  | .document _ => "document"

def asKey : DocumentValue -> Except SerializeError String
  | .text key => .ok key
  | other => .error (.keyNotText other.kindName)

/-- Maps and records become documents, or what those spell. -/
def ofFields (fields : List (String × DocumentValue)) : DocumentValue :=
  (DocumentValue.document (Document.ofFields fields)).interpreted

def ofInt (width : IntWidth) (value : Int) : Except SerializeError DocumentValue :=
  match width with
  | .i8 | .i16 | .i32 | .u8 | .u16 => .ok (.int32 value)
  | .u32 | .i64 => .ok (.int64 value)
  | .u64 => if value < Nat.pow 2 63 then .ok (.int64 value) else .error (.unsignedTooLarge value)
  | .i128 | .u128 => .error (.unsupportedWidth width)

end DocumentValue

namespace Datum

mutual

def serialize : Datum -> Except SerializeError DocumentValue
  | .unit | .absent => .ok .null
  | .bool value => .ok (.bool value)
  | .text value => .ok (.text value)
  | .int width value => DocumentValue.ofInt width value
  | .single bits => .ok (.double (Double.widen bits))
  | .double bits => .ok (.double bits)
  | .char value => .ok (.text (String.singleton value))
  | .bytes value => .ok (.binary 0 value)
  | .present value | .wrapped value => serialize value
  | .items values => do return .array (← serializeItems values)
  | .map entries => do return DocumentValue.ofFields (← serializeEntries entries)
  | .record fields => do return DocumentValue.ofFields (← serializeFields fields)
  | .unitVariant name => .ok (.text name)
  | .wrappedVariant name value => do return .document [(name, ← serialize value)]
  | .itemsVariant name values => do return .document [(name, .array (← serializeItems values))]
  | .recordVariant name fields => do
      return .document [(name, DocumentValue.ofFields (← serializeFields fields))]
  | .refusing message => .error (.refused message)

def serializeItems : List Datum -> Except SerializeError (List DocumentValue)
  | [] => .ok []
  | value :: rest => do
      let first ← serialize value
      return first :: (← serializeItems rest)

def serializeEntries : List (Datum × Datum) -> Except SerializeError (List (String × DocumentValue))
  | [] => .ok []
  | (key, value) :: rest => do
      let name ← (← serialize key).asKey
      let stored ← serialize value
      return (name, stored) :: (← serializeEntries rest)

def serializeFields : List (String × Datum) -> Except SerializeError (List (String × DocumentValue))
  | [] => .ok []
  | (name, value) :: rest => do
      let stored ← serialize value
      return (name, stored) :: (← serializeFields rest)

end

end Datum
end PartialUpdate
