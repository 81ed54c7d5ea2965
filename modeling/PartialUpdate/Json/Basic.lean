/-!
# JSON

JSON data as it stands in a text: members of an object keep their order and may repeat a
key, and a text that stops being JSON is kept up to the place where it does.  What breaks off
is told apart as far as readers do.
-/

namespace PartialUpdate

/-- How a text fails to be JSON: it ends too early, or goes on wrongly. -/
inductive JsonFault
  | ended
  | malformed
  deriving DecidableEq, Repr

inductive JsonNumber
  | natural (value : Nat)
  /-- The whole number `-(value + 1)`. -/
  | negative (value : Nat)
  /-- A double by its bits. -/
  | real (bits : UInt64)
  | outOfRange
  deriving DecidableEq, Repr

mutual

inductive Json
  | null
  | bool (value : Bool)
  | number (value : JsonNumber)
  | string (value : String)
  /-- A string that spells half of a surrogate pair, and how it stops being a string later. -/
  | unpaired (fault : Option JsonFault)
  | brokenString (fault : JsonFault)
  | array (items : List Json) (fault : Option JsonFault)
  | object (members : List (JsonKey × Json)) (fault : Option JsonFault)
  | broken (fault : JsonFault)
  | missing

/-- What stands where the key of a member should. -/
inductive JsonKey
  | text (name : String)
  /-- A string that spells half of a surrogate pair. -/
  | unpaired
  /-- Something else than a string; the member ends with it. -/
  | other (value : Json)
  | missing

end

namespace JsonKey

def fault : JsonKey -> Option JsonFault
  | .text _ => none
  | .unpaired | .other _ => some .malformed
  | .missing => some .ended

def skippedFault : JsonKey -> Option JsonFault
  | .text _ | .unpaired => none
  | .other _ => some .malformed
  | .missing => some .ended

end JsonKey

namespace Json

instance : Inhabited Json := ⟨.null⟩

def ofList (items : List Json) : Json :=
  .array items none

def ofMembers (members : List (String × Json)) : Json :=
  .object (members.map (fun (name, value) => (.text name, value))) none

def ofOption {α : Type} (encode : α -> Json) : Option α -> Json
  | none => .null
  | some value => encode value

/-!
# Faults in reading order
-/

def depthLimit : Nat := 127

mutual

/-- The first fault met when all of the data is read, `depth` containers being open. -/
def firstFault (depth : Nat) : Json -> Option JsonFault
  | .null | .bool _ | .string _ => none
  | .number value => if value = .outOfRange then some .malformed else none
  | .unpaired _ => some .malformed
  | .array items fault =>
      if depth < depthLimit then (firstFaultOfItems (depth + 1) items).or fault
      else some .malformed
  | .object members fault =>
      if depth < depthLimit then (firstFaultOfMembers (depth + 1) members).or fault
      else some .malformed
  | .brokenString fault | .broken fault => some fault
  | .missing => some .ended

def firstFaultOfItems (depth : Nat) : List Json -> Option JsonFault
  | [] => none
  | item :: rest => (firstFault depth item).or (firstFaultOfItems depth rest)

def firstFaultOfMembers (depth : Nat) : List (JsonKey × Json) -> Option JsonFault
  | [] => none
  | (key, value) :: rest =>
      (key.fault.or (firstFault depth value)).or (firstFaultOfMembers depth rest)

end

mutual

/-- The first fault met when the data is passed over unread: the shape of strings and numbers
still counts, their meaning and the depth do not. -/
def firstSkippedFault : Json -> Option JsonFault
  | .null | .bool _ | .string _ | .number _ => none
  | .unpaired fault => fault
  | .array items fault => (firstSkippedFaultOfItems items).or fault
  | .object members fault => (firstSkippedFaultOfMembers members).or fault
  | .brokenString fault | .broken fault => some fault
  | .missing => some .ended

def firstSkippedFaultOfItems : List Json -> Option JsonFault
  | [] => none
  | item :: rest => (firstSkippedFault item).or (firstSkippedFaultOfItems rest)

def firstSkippedFaultOfMembers : List (JsonKey × Json) -> Option JsonFault
  | [] => none
  | (key, value) :: rest =>
      (key.skippedFault.or (firstSkippedFault value)).or (firstSkippedFaultOfMembers rest)

end

end Json
end PartialUpdate
