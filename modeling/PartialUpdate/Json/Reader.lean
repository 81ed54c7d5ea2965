import PartialUpdate.Decimal.Nearest
import PartialUpdate.Json.Basic

/-!
# Reading JSON

Reading takes a value off the front of the text and says what is left, or nothing when the
text stopped being JSON inside the value.
-/

namespace PartialUpdate
namespace Json

def isSpace (c : Char) : Bool :=
  c == ' ' || c == '\n' || c == '\t' || c == '\r'

def skipSpace (text : List Char) : List Char :=
  text.dropWhile isSpace

def faultAt (rest : List Char) : JsonFault :=
  if rest.isEmpty then .ended else .malformed

/-- What a reader took, and the rest of the text unless a fault stopped it. -/
abbrev Taken (α : Type) := α × Option (List Char)

/-!
# Words, strings and numbers
-/

def readWord (value : Json) : List Char -> List Char -> Taken Json
  | [], rest => (value, some rest)
  | _ :: _, [] => (.broken .ended, none)
  | c :: word, d :: rest => if c == d then readWord value word rest else (.broken .malformed, none)

def hexValue? (c : Char) : Option Nat :=
  if c.isDigit then some (c.toNat - '0'.toNat)
  else if 'a' <= c && c <= 'f' then some (c.toNat - 'a'.toNat + 10)
  else if 'A' <= c && c <= 'F' then some (c.toNat - 'A'.toNat + 10)
  else none

/-- Takes four digits.  Only a text of less than four bytes ends too early. -/
def readHex : List Char -> Except JsonFault (Nat × List Char)
  | text =>
      let digits := text.take 4
      match digits.mapM hexValue? with
      | some [a, b, c, d] => .ok (((a * 16 + b) * 16 + c) * 16 + d, text.drop 4)
      | _ => .error (if (String.ofList digits).utf8ByteSize < 4 then .ended else .malformed)

def isHighSurrogate (code : Nat) : Bool := 0xD800 <= code && code < 0xDC00

def isLowSurrogate (code : Nat) : Bool := 0xDC00 <= code && code < 0xE000

/-- What a string holds, `none` standing for half of a surrogate pair, and the text behind it
unless the string breaks off. -/
abbrev ReadChars := List (Option Char) × Except JsonFault (List Char)

def simpleEscape? (c : Char) : Option Char :=
  [('"', '"'), ('\\', '\\'), ('/', '/'), ('b', '\x08'), ('f', '\x0c'), ('n', '\n'),
    ('r', '\r'), ('t', '\t')].lookup c

/-- Takes the second half of a pair, whose first half was read; `none` if something else stands
there, which is not taken. -/
def readLowHalf (high : Nat) : List Char -> Except JsonFault (Option Char × List Char)
  | [] | ['\\'] => .error .ended
  | '\\' :: 'u' :: rest => do
      let (low, rest) ← readHex rest
      if isLowSurrogate low then
        return (some (Char.ofNat (0x10000 + (high - 0xD800) * 0x400 + (low - 0xDC00))), rest)
      else return (none, rest)
  | rest => .ok (none, rest)

def readEscape : List Char -> Except JsonFault (Option Char × List Char)
  | [] => .error .ended
  | 'u' :: rest => do
      let (code, rest) ← readHex rest
      if isHighSurrogate code then readLowHalf code rest
      else return (if isLowSurrogate code then none else some (Char.ofNat code), rest)
  | c :: rest =>
      match simpleEscape? c with
      | some c => .ok (some c, rest)
      | none => .error .malformed

/-- The characters up to the closing quote.  `fuel` bounds the characters. -/
def readChars : Nat -> List Char -> ReadChars
  | 0, _ => ([], .error .ended)
  | _ + 1, [] => ([], .error .ended)
  | _ + 1, '"' :: rest => ([], .ok rest)
  | fuel + 1, '\\' :: rest =>
      match readEscape rest with
      | .error fault => ([], .error fault)
      | .ok (c, rest) =>
          let (chars, rest) := readChars fuel rest
          (c :: chars, rest)
  | fuel + 1, c :: rest =>
      if c.toNat < 0x20 then ([], .error .malformed)
      else
        let (chars, rest) := readChars fuel rest
        (some c :: chars, rest)

def readString (text : List Char) : Option String × Except JsonFault (List Char) :=
  let (chars, rest) := readChars (text.length + 1) text
  ((chars.mapM id).map String.ofList, rest)

def takenString (text : List Char) : Taken Json :=
  match readString text with
  | (some value, .ok rest) => (.string value, some rest)
  | (some _, .error fault) => (.brokenString fault, none)
  | (none, .ok rest) => (.unpaired none, some rest)
  | (none, .error fault) => (.unpaired (some fault), none)

def digitsValue (digits : List Char) : Nat :=
  digits.foldl (fun value c => value * 10 + (c.toNat - '0'.toNat)) 0

def significandBound : Nat := Nat.pow 2 64

def powerOfTen (exponent : Nat) : Float :=
  Float.ofBits (Decimal.nearest ⟨1, exponent⟩)

def greatestPower : Nat := 308

/-- `significand * 10 ^ exponent`, each step rounded: the significand becomes a double, which is
multiplied or divided by a power of ten, and divided twice if one power is not enough. -/
def scaled (significand : Nat) (exponent : Int) : Float :=
  let value := (UInt64.ofNat significand).toFloat
  let places := exponent.natAbs
  if exponent >= 0 then
    if significand == 0 then value
    else if places <= greatestPower then value * powerOfTen places
    else 1.0 / 0.0
  else if places <= greatestPower then value / powerOfTen places
  else if places <= 2 * greatestPower then
    value / powerOfTen greatestPower / powerOfTen (places - greatestPower)
  else 0.0

def realNumber (negative : Bool) (significand : Nat) (exponent : Int) : JsonNumber :=
  let magnitude := scaled significand exponent
  if magnitude.isInf then .outOfRange
  else .real (if negative then -magnitude else magnitude).toBits

/-- A whole number within the bound; a negative zero and negative numbers of more than 63 bits
are doubles. -/
def wholeNumber (negative : Bool) (value : Nat) : JsonNumber :=
  if negative then
    if value == 0 || value > Nat.pow 2 63 then realNumber true value 0 else .negative (value - 1)
  else .natural value

/-- Takes digits into the significand as long as it stays within the bound; answers it with the
number of digits taken and the digits left. -/
def takeDigits (significand : Nat) : List Char -> Nat × Nat × List Char
  | [] => (significand, 0, [])
  | c :: rest =>
      let next := significand * 10 + (c.toNat - '0'.toNat)
      if next < significandBound then
        let (significand, count, left) := takeDigits next rest
        (significand, count + 1, left)
      else (significand, 0, c :: rest)

def readExponent (text : List Char) : Except JsonFault (Int × List Char) :=
  let (negative, text) :=
    match text with
    | '+' :: rest => (false, rest)
    | '-' :: rest => (true, rest)
    | _ => (false, text)
  let digits := text.takeWhile Char.isDigit
  if digits.isEmpty then .error (faultAt text)
  else
    let value : Int := digitsValue digits
    .ok (if negative then -value else value, text.dropWhile Char.isDigit)

def isExponentMark (c : Char) : Bool := c == 'e' || c == 'E'

/-- Digits of the whole part that the significand cannot hold raise the exponent, those of the
fraction are passed over. -/
def readFraction (negative : Bool) (whole : List Char) (text : List Char) :
    Except JsonFault (JsonNumber × List Char) := do
  let (significand, _, dropped) := takeDigits 0 whole
  let (fraction, text) ←
    match text with
    | '.' :: rest =>
        let digits := rest.takeWhile Char.isDigit
        if digits.isEmpty then .error (faultAt rest)
        else pure (digits, rest.dropWhile Char.isDigit)
    | _ => pure ([], text)
  let (exponent, marked, text) ←
    match text with
    | c :: rest =>
        if isExponentMark c then do
          let (exponent, rest) ← readExponent rest
          pure (exponent, true, rest)
        else pure (0, false, text)
    | [] => pure (0, false, text)
  if fraction.isEmpty && !marked && dropped.isEmpty then
    return (wholeNumber negative significand, text)
  else
    let (significand, places, _) := takeDigits significand fraction
    return (realNumber negative significand (exponent + dropped.length - places), text)

def readNumber (negative : Bool) (text : List Char) : Except JsonFault (JsonNumber × List Char) :=
  match text with
  | [] => .error .ended
  | '0' :: rest =>
      if rest.head?.any Char.isDigit then .error .malformed else readFraction negative ['0'] rest
  | c :: _ =>
      if c.isDigit then
        readFraction negative (text.takeWhile Char.isDigit) (text.dropWhile Char.isDigit)
      else .error .malformed

def takenNumber : Except JsonFault (JsonNumber × List Char) -> Taken Json
  | .ok (value, rest) => (.number value, some rest)
  | .error fault => (.broken fault, none)

/-!
# Values
-/

def readColon (text : List Char) : Except JsonFault (List Char) :=
  match skipSpace text with
  | ':' :: rest => .ok rest
  | rest => .error (faultAt rest)

mutual

def readValue : Nat -> List Char -> Taken Json
  | 0, _ => (.missing, none)
  | fuel + 1, text =>
      match skipSpace text with
      | [] => (.missing, none)
      | 'n' :: rest => readWord .null ['u', 'l', 'l'] rest
      | 't' :: rest => readWord (.bool true) ['r', 'u', 'e'] rest
      | 'f' :: rest => readWord (.bool false) ['a', 'l', 's', 'e'] rest
      | '"' :: rest => takenString rest
      | '[' :: rest =>
          let (items, fault, rest) := readItems fuel true rest
          (.array items fault, rest)
      | '\x7b' :: rest =>
          let (members, fault, rest) := readMembers fuel true rest
          (.object members fault, rest)
      | '-' :: rest => takenNumber (readNumber true rest)
      | c :: rest =>
          if c.isDigit then takenNumber (readNumber false (c :: rest))
          else (.broken .malformed, none)

/-- The items up to the closing bracket; a comma stands before each but the first. -/
def readItems : Nat -> Bool -> List Char -> List Json × Option JsonFault × Option (List Char)
  | 0, _, _ => ([], some .ended, none)
  | fuel + 1, first, text =>
      match skipSpace text with
      | ']' :: rest => ([], none, some rest)
      | ',' :: rest =>
          if first then readItem fuel (',' :: rest)
          else
            match skipSpace rest with
            | ']' :: _ => ([], some .malformed, none)
            | [] => ([], some .ended, none)
            | rest => readItem fuel rest
      | [] => ([], some .ended, none)
      | rest => if first then readItem fuel rest else ([], some .malformed, none)

def readItem : Nat -> List Char -> List Json × Option JsonFault × Option (List Char)
  | 0, _ => ([], some .ended, none)
  | fuel + 1, text =>
      match readValue fuel text with
      | (item, none) => ([item], none, none)
      | (item, some rest) =>
          let (items, fault, rest) := readItems fuel false rest
          (item :: items, fault, rest)

def readMembers : Nat -> Bool -> List Char ->
    List (JsonKey × Json) × Option JsonFault × Option (List Char)
  | 0, _, _ => ([], some .ended, none)
  | fuel + 1, first, text =>
      match skipSpace text with
      | '\x7d' :: rest => ([], none, some rest)
      | ',' :: rest =>
          if first then ([], some .malformed, none)
          else readMember fuel (skipSpace rest)
      | [] => ([], some .ended, none)
      | rest => if first then readMember fuel rest else ([], some .malformed, none)

def readMember : Nat -> List Char -> List (JsonKey × Json) × Option JsonFault × Option (List Char)
  | 0, _ => ([], some .ended, none)
  | fuel + 1, text =>
      match text with
      | [] => ([(.missing, .missing)], none, none)
      | '"' :: rest =>
          match readString rest with
          | (some _, .error fault) => ([], some fault, none)
          | (none, .error fault) => ([(.unpaired, .broken fault)], none, none)
          | (name, .ok rest) =>
              let key := (name.map JsonKey.text).getD .unpaired
              match readColon rest with
              | .error fault => ([(key, .broken fault)], none, none)
              | .ok rest =>
                  match readValue fuel rest with
                  | (value, none) => ([(key, value)], none, none)
                  | (value, some rest) =>
                      let (members, fault, rest) := readMembers fuel false rest
                      ((key, value) :: members, fault, rest)
      | _ => ([(.other (readValue fuel text).1, .missing)], none, none)

end

/-- Enough for every step of reading: each consumes a character or leaves one kind of step for
another. -/
def fuelFor (text : List Char) : Nat :=
  4 * text.length + 8

/-- The value that begins the text, and whether anything but space follows it. -/
def read (text : String) : Json × Option JsonFault :=
  match readValue (fuelFor text.toList) text.toList with
  | (value, none) => (value, none)
  | (value, some rest) => (value, if (skipSpace rest).isEmpty then none else some .malformed)

end Json
end PartialUpdate
