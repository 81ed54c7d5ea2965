import PartialUpdate.Syntax.TypeSyntax

/-!
# Expressions and attributes as written

Of an expression its kind is kept, with the names of the path that it may be; an attribute
is a path, alone or with a list or a value.
-/

namespace PartialUpdate

/-- Operators bind the stronger the later they stand here. -/
inductive Precedence
  | jump
  | assign
  | range
  | or
  | and
  | letting
  | compare
  | bitOr
  | bitXor
  | bitAnd
  | shift
  | sum
  | product
  | cast
  deriving DecidableEq, Inhabited

namespace Precedence

def rank (precedence : Precedence) : Nat :=
  precedence.ctorIdx

def le (a b : Precedence) : Bool := a.rank <= b.rank

def lt (a b : Precedence) : Bool := a.rank < b.rank

end Precedence

inductive ExpressionKind
  | array
  | assignment
  | asyncBlock
  | await
  | binary (precedence : Precedence)
  | block
  | breaking
  | call
  | cast
  | closure
  | constBlock
  | continuing
  | field
  | forLoop
  | conditional
  | index
  | inferred
  | letting
  | literal
  | loop
  | macroCall
  | matching
  | methodCall
  | parenthesized
  | path
  | range
  | rawReference
  | reference
  | repetition
  | returning
  | record
  | question
  | tryBlock
  | tuple
  | unary
  | unsafeBlock
  | verbatim
  | whileLoop
  | yielding
  deriving DecidableEq, Inhabited

namespace ExpressionKind

def name : ExpressionKind -> String
  | .array => "array"
  | .assignment => "assign"
  | .asyncBlock => "async"
  | .await => "await"
  | .binary _ => "binary"
  | .block => "block"
  | .breaking => "break"
  | .call => "call"
  | .cast => "cast"
  | .closure => "closure"
  | .constBlock => "const"
  | .continuing => "continue"
  | .field => "field"
  | .forLoop => "for_loop"
  | .conditional => "if"
  | .index => "index"
  | .inferred => "infer"
  | .letting => "let"
  | .literal => "lit"
  | .loop => "loop"
  | .macroCall => "macro"
  | .matching => "match"
  | .methodCall => "method_call"
  | .parenthesized => "paren"
  | .path => "path"
  | .range => "range"
  | .rawReference => "unknown"
  | .reference => "reference"
  | .repetition => "repeat"
  | .returning => "return"
  | .record => "struct"
  | .question => "try"
  | .tryBlock => "try_block"
  | .tuple => "tuple"
  | .unary => "unary"
  | .unsafeBlock => "unsafe"
  | .verbatim => "verbatim"
  | .whileLoop => "while"
  | .yielding => "yield"

/-- Whether an expression of this kind ends with its last brace where a statement or an arm of
a match may end. -/
def endsItself : ExpressionKind -> Bool
  | .conditional | .matching | .block | .unsafeBlock | .whileLoop | .loop | .forLoop
  | .tryBlock | .constBlock => true
  | _ => false

end ExpressionKind

structure ExpressionShape where
  kind : ExpressionKind
  path : Option PathSyntax := none
  deriving DecidableEq, Inhabited

structure Expression where
  shape : ExpressionShape
  tokens : List Token
  deriving DecidableEq, Inhabited

/-!
# Attributes
-/

inductive AttributeContent
  | word
  | list (delimiter : Delimiter) (tokens : List Token)
  | value (expression : Expression)
  deriving DecidableEq, Inhabited

/-- A path with what is said under it. -/
structure AttributeItem where
  path : PathSyntax
  content : AttributeContent
  deriving DecidableEq, Inhabited

namespace AttributeItem

def tokens (item : AttributeItem) : List Token :=
  item.path.tokens ++
    match item.content with
    | .word => []
    | .list delimiter tokens => [.group delimiter tokens Span.unplaced]
    | .value expression => Token.operator "=" ++ expression.tokens

end AttributeItem

structure Attribute where
  inner : Bool
  item : AttributeItem
  span : Span
  deriving DecidableEq, Inhabited

namespace Attribute

def tokens (written : Attribute) : List Token :=
  Token.operator "#" ++ (if written.inner then Token.operator "!" else [])
    ++ [Token.bracketed written.item.tokens]

def isNamed (written : Attribute) (word : String) : Bool :=
  written.item.path.isWord word

end Attribute
end PartialUpdate
