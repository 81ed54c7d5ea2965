import PartialUpdate.Identifier
import PartialUpdate.Text.Quoted

/-!
# Tokens

A program text as a tree of tokens: identifiers, punctuation characters, literals, and groups
between matching delimiters.  A punctuation character is joint when the next one follows
without a space, so that `joint` decides where the printed text has none.

Groups without delimiters are left out.  Only the expansion of a macro makes them, around what it
has parsed before, and no text holds one.
-/

namespace PartialUpdate

/-- Lines count from one, columns from zero. -/
structure Position where
  line : Nat
  column : Nat
  deriving DecidableEq, Inhabited, Repr

/-- The end lies behind the last character. -/
structure Span where
  start : Position
  stop : Position
  deriving DecidableEq, Inhabited, Repr

namespace Span

def unplaced : Span := ⟨⟨1, 0⟩, ⟨1, 0⟩⟩

def through (first last : Span) : Span := ⟨first.start, last.stop⟩

end Span

inductive Delimiter
  | parenthesis
  | bracket
  | brace
  deriving DecidableEq, Inhabited, Repr

namespace Delimiter

def opening : Delimiter -> Char
  | .parenthesis => '('
  | .bracket => '['
  | .brace => '\x7b'

def closing : Delimiter -> Char
  | .parenthesis => ')'
  | .bracket => ']'
  | .brace => '\x7d'

end Delimiter

inductive LiteralKind
  | string
  | byteString
  | cString
  | byte
  | character
  | integer
  | float
  /-- What a printer writes in place of a literal that is none. -/
  | placeholder
  deriving DecidableEq, Inhabited, Repr

inductive Token
  | identifier (name : Identifier) (span : Span)
  | punctuation (char : Char) (joint : Bool) (span : Span)
  | literal (kind : LiteralKind) (text : String) (span : Span)
  | group (delimiter : Delimiter) (content : List Token) (span : Span)
  deriving Inhabited

namespace Identifier

def text (identifier : Identifier) : String :=
  if identifier.raw then "r#" ++ identifier.name else identifier.name

end Identifier

namespace Token

def span : Token -> Span
  | .identifier _ span | .punctuation _ _ span | .literal _ _ span | .group _ _ span => span

def joined : Token -> Bool
  | .punctuation _ joint _ => joint
  | _ => false

/-!
# Tokens of no text
-/

def ofIdentifier (name : Identifier) : Token :=
  .identifier name Span.unplaced

def word (name : String) : Token :=
  ofIdentifier (Identifier.plain name)

def stringLiteral (text : String) : Token :=
  .literal .string (Quoted.literal text) Span.unplaced

def parenthesized (content : List Token) : Token :=
  .group .parenthesis content Span.unplaced

def bracketed (content : List Token) : Token :=
  .group .bracket content Span.unplaced

def braced (content : List Token) : Token :=
  .group .brace content Span.unplaced

/-- All characters but the last are joint. -/
def operatorChars : List Char -> List Token
  | [] => []
  | [c] => [.punctuation c false Span.unplaced]
  | c :: rest => .punctuation c true Span.unplaced :: operatorChars rest

def operator (text : String) : List Token :=
  operatorChars text.toList

def comma : Token := .punctuation ',' false Span.unplaced

def semicolon : Token := .punctuation ';' false Span.unplaced

/-!
# Tokens apart from their places
-/

mutual

def unplaced : Token -> Token
  | .identifier name _ => .identifier name Span.unplaced
  | .punctuation char joint _ => .punctuation char joint Span.unplaced
  | .literal kind text _ => .literal kind text Span.unplaced
  | .group delimiter content _ => .group delimiter (unplacedAll content) Span.unplaced

def unplacedAll : List Token -> List Token
  | [] => []
  | token :: rest => unplaced token :: unplacedAll rest

end

/-!
# Comparison

No handler derives the comparison of tokens, since groups hold lists of them.
-/

mutual

def same : Token -> Token -> Bool
  | .identifier a s, .identifier b t => decide (a = b ∧ s = t)
  | .punctuation c i s, .punctuation d j t => decide (c = d ∧ i = j ∧ s = t)
  | .literal k a s, .literal l b t => decide (k = l ∧ a = b ∧ s = t)
  | .group d content s, .group e other t => decide (d = e ∧ s = t) && sameAll content other
  | _, _ => false

def sameAll : List Token -> List Token -> Bool
  | [], [] => true
  | a :: rest, b :: others => same a b && sameAll rest others
  | _, _ => false

end

mutual

theorem same_iff (a b : Token) : same a b = true ↔ a = b := by
  cases a with
  | group d content s =>
      cases b with
      | group e other t =>
          simp only [same, sameAll_iff content other, Bool.and_eq_true, decide_eq_true_eq,
            Token.group.injEq]
          grind
      | _ => simp [same]
  | _ => cases b <;> simp [same]

theorem sameAll_iff (a b : List Token) : sameAll a b = true ↔ a = b := by
  cases a with
  | nil => cases b <;> simp [sameAll]
  | cons first rest =>
      cases b with
      | nil => simp [sameAll]
      | cons other others => simp [sameAll, same_iff first other, sameAll_iff rest others]

end

instance : DecidableEq Token :=
  fun a b => decidable_of_iff _ (same_iff a b)

/-!
# Printing
-/

mutual

def text : Token -> String
  | .identifier name _ => name.text
  | .punctuation char _ _ => char.toString
  | .literal _ text _ => text
  | .group .parenthesis content _ => "(" ++ texts content ++ ")"
  | .group .bracket content _ => "[" ++ texts content ++ "]"
  | .group .brace content _ =>
      if content.isEmpty then "\x7b \x7d" else "\x7b " ++ texts content ++ " \x7d"

/-- Tokens stand one space apart, unless the first of two is joint. -/
def texts : List Token -> String
  | [] => ""
  | [token] => text token
  | token :: rest => (if token.joined then text token else text token ++ " ") ++ texts rest

end

end Token
end PartialUpdate
