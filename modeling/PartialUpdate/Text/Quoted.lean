import PartialUpdate.Text.Invisible

/-!
# Quoted texts

A text between double quotes.  The quote, the backslash, the line breaks and the tab are
escaped by a letter, and characters without a shape of their own by their number.
-/

namespace PartialUpdate
namespace Quoted

def hexDigits (n : Nat) : List Char :=
  Nat.toDigits 16 n

def escape (c : Char) : List Char :=
  match c with
  | '\x00' => ['\\', '0']
  | '\t' => ['\\', 't']
  | '\r' => ['\\', 'r']
  | '\n' => ['\\', 'n']
  | '\\' => ['\\', '\\']
  | '"' => ['\\', '"']
  | c =>
      if CharSet.invisible.contains c then "\\u\x7b".toList ++ hexDigits c.toNat ++ ['\x7d'] else [c]

def encode (text : String) : String :=
  String.ofList (('"' :: text.toList.flatMap escape) ++ ['"'])

def isOctalDigit (c : Char) : Bool :=
  '0' <= c && c <= '7'

/-- A zero character before an octal digit is written in two digits, so that the pair does not
read as one octal number. -/
def escapeLiteral : List Char -> List Char
  | [] => []
  | c :: rest =>
      let written :=
        if c == '\x00' && rest.head?.any isOctalDigit then ['\\', 'x', '0', '0'] else escape c
      written ++ escapeLiteral rest

def literal (text : String) : String :=
  String.ofList (('"' :: escapeLiteral text.toList) ++ ['"'])

end Quoted
end PartialUpdate
