import PartialUpdate.Decimal.Numeral
import PartialUpdate.Document.Value
import PartialUpdate.Text.Bytes

/-!
# Spelled values

A document with a single key that is the mark of a type spells a value of that type, if what
stands under the key has the right form.  Small documents are looked through for such
spellings, one in the other; documents of more than two fields are left as they are.
-/

namespace PartialUpdate
namespace DocumentValue

/-- Binary data is spelled as text or given as it is, with its subtype beside it. -/
def spelledBinary? (fields : Document) : Option DocumentValue :=
  match fields.get? "base64" with
  | some (.text written) => do
      let bytes ← Bytes.ofBase64? written.toList
      match fields.get? "subType" with
      | some (.text subtype) =>
          match Bytes.ofHex? subtype.toList with
          | some [subtype] => some (.binary subtype bytes)
          | _ => none
      | _ => none
  | _ =>
      match fields.get? "bytes", fields.get? "subType" with
      | some (.binary 0 bytes), some (.int32 subtype) =>
          if 0 <= subtype && subtype < 256 then some (.binary (UInt8.ofNat subtype.toNat) bytes)
          else none
      | _, _ => none

def spelled? (key : String) (value : DocumentValue) : Option DocumentValue :=
  match key, value with
  | "$numberInt", .text written => .int32 <$> Numeral.integerWithin? (Nat.pow 2 31) written
  | "$numberLong", .text written => .int64 <$> Numeral.integerWithin? (Nat.pow 2 63) written
  | "$numberDouble", .text "Infinity" => some (.double Double.infinity)
  | "$numberDouble", .text "-Infinity" => some (.double (Double.negated Double.infinity))
  | "$numberDouble", .text "NaN" => some (.double Double.undefined)
  | "$numberDouble", .text written => .double <$> Numeral.double? written
  | "$binary", .document fields => spelledBinary? fields
  | "$uuid", .text written => .binary 4 <$> Bytes.ofUniqueName? written.toList
  | _, _ => none

def spelledBy? (fields : Document) : Option DocumentValue :=
  match fields with
  | [(key, value)] => spelled? key value
  | _ => none

mutual

def interpreted : DocumentValue -> DocumentValue
  | .document fields =>
      if fields.length > 2 then .document fields
      else (spelledBy? fields).getD (.document (interpretedFields fields))
  | value => value

def interpretedFields : List (String × DocumentValue) -> List (String × DocumentValue)
  | [] => []
  | (name, value) :: rest => (name, interpreted value) :: interpretedFields rest

end

end DocumentValue
end PartialUpdate
