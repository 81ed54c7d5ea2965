import PartialUpdate.Syntax.Token

/-!
# Literals

Scanning takes a literal off the front of a text and gives the text behind it.  A literal
may carry a suffix: an identifier right behind it.
-/

namespace PartialUpdate
namespace Literal

/-!
# Escapes
-/

def skipIf (accepts : Char -> Bool) : List Char -> Option (List Char)
  | [] => none
  | c :: rest => if accepts c then some rest else none

def hexValue? (c : Char) : Option Nat :=
  if '0' <= c && c <= '9' then some (c.toNat - '0'.toNat)
  else if 'a' <= c && c <= 'f' then some (c.toNat - 'a'.toNat + 10)
  else if 'A' <= c && c <= 'F' then some (c.toNat - 'A'.toNat + 10)
  else none

def readByte : List Char -> Option (Nat × List Char)
  | high :: low :: rest => do
      return ((← hexValue? high) * 16 + (← hexValue? low), rest)
  | _ => none

/-- Digits up to the closing brace, with underscores after the first. -/
def readCodeDigits (value count : Nat) : List Char -> Option (Nat × List Char)
  | [] => none
  | c :: rest =>
      match hexValue? c with
      | some digit =>
          if count < 6 then readCodeDigits (value * 16 + digit) (count + 1) rest else none
      | none =>
          if count = 0 then none
          else if c = '_' then readCodeDigits value count rest
          else if c = '\x7d' then some (value, rest)
          else none

/-- The character of a number, unless it is half of a surrogate pair or too large. -/
def charOf? (code : Nat) : Option Char :=
  if code.isValidChar then some (Char.ofNat code) else none

def readCode (text : List Char) : Option (Char × List Char) := do
  let (code, rest) ← readCodeDigits 0 0 (← skipIf (fun c => c == '\x7b') text)
  return (← charOf? code, rest)

/-- A carriage return counts only before a line feed. -/
def skipLineSpace : List Char -> Option (List Char)
  | '\r' :: '\n' :: rest => skipLineSpace rest
  | '\r' :: _ => none
  | ' ' :: rest | '\t' :: rest | '\n' :: rest => skipLineSpace rest
  | [] => none
  | text => some text

def simpleEscape? (c : Char) : Option Char :=
  [('n', '\n'), ('r', '\r'), ('t', '\t'), ('\\', '\\'), ('0', '\x00'), ('\'', '\''),
    ('"', '"')].lookup c

/-- The kinds of quoted literals differ in what they may hold. -/
inductive Charset
  | text
  | bytes
  /-- Texts that end at a zero, which they cannot hold. -/
  | zeroEnded
  deriving DecidableEq

namespace Charset

def admits : Charset -> Char -> Bool
  | .text, _ => true
  | .bytes, c => c.toNat < 0x80
  | .zeroEnded, c => c != '\x00'

def admitsByte : Charset -> Nat -> Bool
  | .text, n => n < 0x80
  | .bytes, _ => true
  | .zeroEnded, n => n != 0

end Charset

def readEscape (charset : Charset) : List Char -> Option (Char × List Char)
  | 'x' :: rest => do
      let (value, rest) ← readByte rest
      if charset.admitsByte value then some (Char.ofNat value, rest) else none
  | 'u' :: rest => do
      if charset = .bytes then none
      let (value, rest) ← readCode rest
      if charset.admits value then some (value, rest) else none
  | c :: rest => do
      let value ← simpleEscape? c
      if charset.admits value then some (value, rest) else none
  | [] => none

/-!
# Quoted literals
-/

def readQuoted (charset : Charset) : Nat -> List Char -> Option (List Char × List Char)
  | 0, _ => none
  | _ + 1, [] => none
  | _ + 1, '"' :: rest => some ([], rest)
  | fuel + 1, '\r' :: '\n' :: rest => next fuel '\n' rest
  | _ + 1, '\r' :: _ => none
  | fuel + 1, '\\' :: '\n' :: rest => do readQuoted charset fuel (← skipLineSpace rest)
  | fuel + 1, '\\' :: '\r' :: '\n' :: rest => do readQuoted charset fuel (← skipLineSpace rest)
  | fuel + 1, '\\' :: rest => do
      let (value, rest) ← readEscape charset rest
      next fuel value rest
  | fuel + 1, c :: rest => if charset.admits c then next fuel c rest else none
where
  next (fuel : Nat) (c : Char) (rest : List Char) : Option (List Char × List Char) := do
    let (value, rest) ← readQuoted charset fuel rest
    return (c :: value, rest)

def quoted (charset : Charset) (text : List Char) : Option (List Char × List Char) :=
  readQuoted charset (text.length + 1) text

/-- The content of a raw literal, which ends at a quote and as many hashes as it began with. -/
def readRaw (charset : Charset) (hashes : List Char) : List Char -> Option (List Char × List Char)
  | [] => none
  | '"' :: rest =>
      match hashes.isPrefixOf? rest with
      | some behind => some ([], behind)
      | none => do
          let (value, rest) ← readRaw charset hashes rest
          return ('"' :: value, rest)
  | '\r' :: '\n' :: rest => do
      let (value, rest) ← readRaw charset hashes rest
      return ('\r' :: '\n' :: value, rest)
  | '\r' :: _ => none
  | c :: rest =>
      if charset.admits c then do
        let (value, rest) ← readRaw charset hashes rest
        return (c :: value, rest)
      else none

def raw (charset : Charset) (text : List Char) : Option (List Char × List Char) := do
  let hashes := text.takeWhile (fun c => c == '#')
  if hashes.length > 255 then none
  readRaw charset hashes (← skipIf (fun c => c == '"') (text.dropWhile (fun c => c == '#')))

def single (charset : Charset) (text : List Char) : Option (List Char) := do
  let rest ←
    match text with
    | '\\' :: rest => (·.2) <$> readEscape charset rest
    | c :: rest => if charset.admits c then some rest else none
    | [] => none
  skipIf (fun c => c == '\'') rest

/-!
# Suffixes
-/

def skipIdentifier : List Char -> Option (List Char)
  | [] => none
  | c :: rest => if Name.isStart c then some (rest.dropWhile Name.isContinue) else none

def skipSuffix (text : List Char) : List Char :=
  (skipIdentifier text).getD text

/-!
# Numbers
-/

def isDecimal (c : Char) : Bool :=
  '0' <= c && c <= '9'

def isDecimalOrUnderscore (c : Char) : Bool :=
  isDecimal c || c == '_'

def isExponentMark (c : Char) : Bool :=
  c == 'e' || c == 'E'

/-- The digits of an exponent, after an optional sign and with underscores anywhere. -/
def skipExponent (text : List Char) : Option (List Char) :=
  let unsigned :=
    match text.dropWhile (fun c => c == '_') with
    | '+' :: rest | '-' :: rest => rest
    | rest => rest
  let digits := unsigned.takeWhile isDecimalOrUnderscore
  if digits.any isDecimal then some (unsigned.drop digits.length) else none

/-- A point belongs to a number unless a second point or a name follows. -/
def skipPoint : List Char -> Option (List Char)
  | '.' :: c :: rest => if c == '.' || Name.isStart c then none else some (c :: rest)
  | '.' :: [] => some []
  | _ => none

def skipFloatDigits (text : List Char) : Option (List Char) := do
  let rest ← skipIf isDecimal text
  let rest := rest.dropWhile isDecimalOrUnderscore
  match rest with
  | '.' :: _ =>
      let fraction := (← skipPoint rest).dropWhile isDecimalOrUnderscore
      match fraction with
      | c :: exponent =>
          if isExponentMark c then return (skipExponent exponent).getD fraction
          else return fraction
      | [] => return fraction
  | c :: exponent => if isExponentMark c then skipExponent exponent else none
  | [] => none

/-- Nothing that could continue an identifier may follow. -/
def endsWord (text : List Char) : Option (List Char) :=
  if text.head?.any Name.isContinue then none else some text

def skipFloat (text : List Char) : Option (List Char) := do
  endsWord (skipSuffix (← skipFloatDigits text))

def radix : List Char -> Nat × List Char
  | '0' :: 'x' :: rest => (16, rest)
  | '0' :: 'o' :: rest => (8, rest)
  | '0' :: 'b' :: rest => (2, rest)
  | text => (10, text)

/-- Digits below the radix; `found` says whether there was one yet. -/
def skipRadixDigits (radix : Nat) (found : Bool) : List Char -> Option (List Char)
  | [] => if found then some [] else none
  | c :: rest =>
      if c = '_' then
        if !found && radix == 10 then none else skipRadixDigits radix found rest
      else
        match hexValue? c with
        | some digit =>
            if digit < radix then skipRadixDigits radix true rest
            else if isDecimal c then none
            else if found then some (c :: rest)
            else none
        | none => if found then some (c :: rest) else none

def skipInteger (text : List Char) : Option (List Char) := do
  let (radix, digits) := radix text
  endsWord (skipSuffix (← skipRadixDigits radix false digits))

/-!
# All literals
-/

/-- A literal with the text behind it.  The kinds are tried in turn. -/
def scan (text : List Char) : Option (LiteralKind × List Char) :=
  match text with
  | '"' :: rest => suffixed .string (quoted .text rest)
  | 'r' :: rest => suffixed .string (raw .text rest)
  | 'b' :: '"' :: rest => suffixed .byteString (quoted .bytes rest)
  | 'b' :: 'r' :: rest => suffixed .byteString (raw .bytes rest)
  | 'b' :: '\'' :: rest => (fun rest => (.byte, skipSuffix rest)) <$> single .bytes rest
  | 'c' :: '"' :: rest => suffixed .cString (quoted .zeroEnded rest)
  | 'c' :: 'r' :: rest => suffixed .cString (raw .zeroEnded rest)
  | '\'' :: rest => (fun rest => (.character, skipSuffix rest)) <$> single .text rest
  | _ =>
      match skipFloat text with
      | some rest => some (.float, rest)
      | none => (fun rest => (.integer, rest)) <$> skipInteger text
where
  suffixed (kind : LiteralKind) : Option (List Char × List Char) -> Option (LiteralKind × List Char)
    | some (_, rest) => some (kind, skipSuffix rest)
    | none => none

def stringValue (text : String) : String :=
  match text.toList with
  | '"' :: rest => content (quoted .text rest)
  | 'r' :: rest => content (raw .text rest)
  | _ => ""
where
  content : Option (List Char × List Char) -> String
    | some (value, _) => String.ofList value
    | none => ""

end Literal
end PartialUpdate
