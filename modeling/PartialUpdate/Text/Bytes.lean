/-!
# Bytes in texts

Bytes are written as pairs of hexadecimal digits, or in groups of four characters for three
bytes.  A last group that is not full is filled up with equal signs, and what it holds beyond
its bytes must be zero.
-/

namespace PartialUpdate
namespace Bytes

/-!
# Pairs of digits
-/

def hexValue? (c : Char) : Option Nat :=
  if c.isDigit then some (c.toNat - '0'.toNat)
  else if 'a' <= c && c <= 'f' then some (c.toNat - 'a'.toNat + 10)
  else if 'A' <= c && c <= 'F' then some (c.toNat - 'A'.toNat + 10)
  else none

def ofHex? : List Char -> Option (List UInt8)
  | [] => some []
  | [_] => none
  | high :: low :: rest => do
      let byte := (← hexValue? high) * 16 + (← hexValue? low)
      return UInt8.ofNat byte :: (← ofHex? rest)

/-!
# Groups of four
-/

def sixBits? (c : Char) : Option Nat :=
  if c.isUpper then some (c.toNat - 'A'.toNat)
  else if c.isLower then some (c.toNat - 'a'.toNat + 26)
  else if c.isDigit then some (c.toNat - '0'.toNat + 52)
  else if c = '+' then some 62
  else if c = '/' then some 63
  else none

/-- The bytes of a group, from the last one on whose place is `count`. -/
def groupBytes (count value : Nat) : List UInt8 :=
  [value / 65536, value / 256 % 256, value % 256].take count |>.map UInt8.ofNat

def ofBase64? : List Char -> Option (List UInt8)
  | [] => some []
  | [a, b, '=', '='] => do
      let value := (← sixBits? a) * 262144 + (← sixBits? b) * 4096
      if value % 65536 = 0 then some (groupBytes 1 value) else none
  | [a, b, c, '='] => do
      let value := (← sixBits? a) * 262144 + (← sixBits? b) * 4096 + (← sixBits? c) * 64
      if value % 256 = 0 then some (groupBytes 2 value) else none
  | a :: b :: c :: d :: rest => do
      let value :=
        (← sixBits? a) * 262144 + (← sixBits? b) * 4096 + (← sixBits? c) * 64 + (← sixBits? d)
      return groupBytes 3 value ++ (← ofBase64? rest)
  | _ => none

/-!
# Unique identifiers
-/

def ofHyphenated? (text : List Char) : Option (List UInt8) :=
  if text.length = 36 && [8, 13, 18, 23].all (fun i => text[i]? == some '-') then
    ofHex? (text.take 8 ++ (text.drop 9).take 4 ++ (text.drop 14).take 4 ++ (text.drop 19).take 4
      ++ text.drop 24)
  else none

/-- Sixteen bytes without hyphens, or with them and perhaps in braces or behind a scheme. -/
def ofUniqueName? (text : List Char) : Option (List UInt8) :=
  if text.length = 32 then ofHex? text
  else if text.length = 38 && text.head? == some '\x7b' && text.getLast? == some '\x7d' then
    ofHyphenated? (text.drop 1).dropLast
  else
    match "urn:uuid:".toList.isPrefixOf? text with
    | some rest => ofHyphenated? rest
    | none => ofHyphenated? text

end Bytes
end PartialUpdate
