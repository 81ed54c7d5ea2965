import PartialUpdate.Decimal.Shortest
import PartialUpdate.Json.Basic

/-!
# Writing JSON

A compact form on one line, and a form with one item or member to a line, indented by two
spaces for each open container.
-/

namespace PartialUpdate
namespace Json

def hexPair (n : Nat) : List Char :=
  [Nat.digitChar (n / 16), Nat.digitChar (n % 16)]

def escapeChar (c : Char) : List Char :=
  match c with
  | '"' => ['\\', '"']
  | '\\' => ['\\', '\\']
  | '\x08' => ['\\', 'b']
  | '\x0c' => ['\\', 'f']
  | '\n' => ['\\', 'n']
  | '\r' => ['\\', 'r']
  | '\t' => ['\\', 't']
  | c => if c.toNat < 0x20 then ['\\', 'u', '0', '0'] ++ hexPair c.toNat else [c]

def quote (text : String) : List Char :=
  '"' :: text.toList.flatMap escapeChar ++ ['"']

/-- Doubles from a hundred-thousandth up to ten to the sixteenth are written out in places. -/
def doubleLayout : DecimalLayout := ⟨-5, 15, true, false⟩

def numberText : JsonNumber -> List Char
  | .natural value => Nat.toDigits 10 value
  | .negative value => '-' :: Nat.toDigits 10 (value + 1)
  | .real bits => ((DoubleForm.ofBits bits).text doubleLayout).toList
  | .outOfRange => []

def scalarText : Json -> List Char
  | .bool true => "true".toList
  | .bool false => "false".toList
  | .number value => numberText value
  | .string value => quote value
  | _ => "null".toList

/-- Only keys that are texts are written. -/
def keyText : JsonKey -> List Char
  | .text name => quote name
  | _ => quote ""

mutual

def compactChars : Json -> List Char
  | .array items _ => '[' :: compactItems items ++ [']']
  | .object members _ => '\x7b' :: compactMembers members ++ ['\x7d']
  | scalar => scalarText scalar

def compactItems : List Json -> List Char
  | [] => []
  | [item] => compactChars item
  | item :: rest => compactChars item ++ ',' :: compactItems rest

def compactMembers : List (JsonKey × Json) -> List Char
  | [] => []
  | [(key, value)] => keyText key ++ ':' :: compactChars value
  | (key, value) :: rest => keyText key ++ ':' :: compactChars value ++ ',' :: compactMembers rest

end

def compact (value : Json) : String :=
  String.ofList (compactChars value)

def newline (depth : Nat) : List Char :=
  '\n' :: List.replicate (2 * depth) ' '

mutual

def prettyChars (depth : Nat) : Json -> List Char
  | .array [] _ => ['[', ']']
  | .array items _ => '[' :: prettyItems (depth + 1) items ++ newline depth ++ [']']
  | .object [] _ => ['\x7b', '\x7d']
  | .object members _ => '\x7b' :: prettyMembers (depth + 1) members ++ newline depth ++ ['\x7d']
  | scalar => scalarText scalar

def prettyItems (depth : Nat) : List Json -> List Char
  | [] => []
  | [item] => newline depth ++ prettyChars depth item
  | item :: rest => newline depth ++ prettyChars depth item ++ ',' :: prettyItems depth rest

def prettyMembers (depth : Nat) : List (JsonKey × Json) -> List Char
  | [] => []
  | [(key, value)] => newline depth ++ keyText key ++ ':' :: ' ' :: prettyChars depth value
  | (key, value) :: rest =>
      newline depth ++ keyText key ++ ':' :: ' ' :: prettyChars depth value
        ++ ',' :: prettyMembers depth rest

end

def pretty (value : Json) : String :=
  String.ofList (prettyChars 0 value)

end Json
end PartialUpdate
