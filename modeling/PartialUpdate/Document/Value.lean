/-!
# Document values

What a document store keeps: scalars, arrays, and documents whose fields stand in the order
in which their names were first written.  Doubles are kept by their bits.
-/

namespace PartialUpdate

inductive DocumentValue
  | null
  | bool (value : Bool)
  | text (value : String)
  | int32 (value : Int)
  | int64 (value : Int)
  | double (bits : UInt64)
  /-- Bytes with a subtype, which is zero for bytes of no particular meaning. -/
  | binary (subtype : UInt8) (bytes : List UInt8)
  | array (items : List DocumentValue)
  | document (fields : List (String × DocumentValue))

abbrev Document := List (String × DocumentValue)

namespace Document

def keys (document : Document) : List String :=
  document.map Prod.fst

def get? (document : Document) (key : String) : Option DocumentValue :=
  document.lookup key

/-- A known key keeps its place and takes the new value; a new key goes to the end. -/
def insert : Document -> String -> DocumentValue -> Document
  | [], key, value => [(key, value)]
  | (known, old) :: rest, key, value =>
      if known == key then (key, value) :: rest else (known, old) :: insert rest key value

def ofFields (fields : List (String × DocumentValue)) : Document :=
  fields.foldl (fun document field => insert document field.1 field.2) []

@[simp] theorem keys_nil : keys [] = [] := rfl

theorem get?_insert (document : Document) (key other : String) (value : DocumentValue) :
    get? (insert document key value) other =
      if other = key then some value else get? document other := by
  induction document with
  | nil =>
      by_cases h : other = key
      · simp [insert, get?, h]
      · have hb : (other == key) = false := by simpa using h
        simp [insert, get?, List.lookup_cons, h, hb]
  | cons field rest ih =>
      obtain ⟨known, old⟩ := field
      by_cases hk : known = key
      · subst hk
        by_cases h : other = known
        · simp [insert, get?, h]
        · have hb : (other == known) = false := by simpa using h
          simp [insert, get?, List.lookup_cons, h, hb]
      · simp only [get?] at ih
        by_cases h : other = known
        · subst h
          simp [insert, get?, hk]
        · have hb : (other == known) = false := by simpa using h
          simp [insert, get?, List.lookup_cons, hk, hb, ih]

theorem keys_insert (document : Document) (key : String) (value : DocumentValue) :
    keys (insert document key value) =
      if key ∈ keys document then keys document else keys document ++ [key] := by
  induction document with
  | nil => simp [insert, keys]
  | cons field rest ih =>
      obtain ⟨known, old⟩ := field
      by_cases hk : known = key
      · subst hk
        simp [insert, keys]
      · have hne : key ≠ known := fun h => hk h.symm
        have step : keys (insert ((known, old) :: rest) key value) =
            known :: keys (insert rest key value) := by
          simp [insert, keys, hk]
        rw [step, ih]
        by_cases hm : key ∈ keys rest
        · simp_all [keys]
        · simp_all [keys]

end Document

/-!
# Equality of values

Doubles are compared as numbers, so that an undefined one differs from itself and the two
zeros agree; documents are compared without regard to the order of their fields.
-/

namespace Double

def isUndefined (bits : UInt64) : Bool :=
  (bits >>> 52) &&& 0x7FF == 0x7FF && bits &&& 0xFFFFFFFFFFFFF != 0

def isZero (bits : UInt64) : Bool :=
  bits &&& 0x7FFFFFFFFFFFFFFF == 0

def same (a b : UInt64) : Bool :=
  !isUndefined a && (a == b || (isZero a && isZero b))

def widen (bits : UInt32) : UInt64 :=
  let sign : UInt64 := (bits >>> 31).toUInt64 <<< 63
  let biased : UInt64 := ((bits >>> 23) &&& 0xFF).toUInt64
  let fraction : UInt64 := (bits &&& 0x7FFFFF).toUInt64
  if biased == 0xFF then
    let quiet : UInt64 := if fraction == 0 then 0 else 0x0008000000000000
    sign ||| (0x7FF0000000000000 : UInt64) ||| quiet ||| (fraction <<< 29)
  else if biased != 0 then sign ||| ((biased + 896) <<< 52) ||| (fraction <<< 29)
  else if fraction == 0 then sign
  else
    let top := fraction.toNat.log2
    let exponent : UInt64 := UInt64.ofNat (top + 874) <<< 52
    let rest := UInt64.ofNat ((fraction.toNat - Nat.pow 2 top) * Nat.pow 2 (52 - top))
    sign ||| exponent ||| rest

end Double

namespace DocumentValue

mutual

def same : DocumentValue -> DocumentValue -> Bool
  | .null, .null => true
  | .bool a, .bool b => a == b
  | .text a, .text b => a == b
  | .int32 a, .int32 b => a == b
  | .int64 a, .int64 b => a == b
  | .double a, .double b => Double.same a b
  | .binary s a, .binary t b => s == t && a == b
  | .array as, .array bs => sameItems as bs
  | .document as, .document bs => as.length == bs.length && sameFields as bs
  | _, _ => false

def sameItems : List DocumentValue -> List DocumentValue -> Bool
  | [], [] => true
  | a :: as, b :: bs => same a b && sameItems as bs
  | _, _ => false

/-- Every field of the first list has an equal under its name in the second. -/
def sameFields : List (String × DocumentValue) -> List (String × DocumentValue) -> Bool
  | [], _ => true
  | (key, a) :: as, bs =>
      (match bs.lookup key with
        | some b => same a b
        | none => false) && sameFields as bs

end

end DocumentValue
end PartialUpdate
