import PartialUpdate.Syntax.Expression
import PartialUpdate.Syntax.Parser

/-!
# Rules of the grammar

The rules of types, expressions, patterns, statements and items refer to each other.  Each is
written as a parser over the rules one level further down; `Rules` holds those.  A rule takes
a token before it goes down a level, so that as many levels as there are tokens suffice.
-/

namespace PartialUpdate

/-- What decides how a pattern may be used. -/
inductive PatternKind
  | range
  | openRange
  | verbatim
  | other
  deriving DecidableEq, Inhabited

namespace PatternKind

def isRange (kind : PatternKind) : Bool :=
  kind = .range || kind = .openRange

end PatternKind

structure BoundForms where
  capture : Bool
  constant : Bool

structure Rules where
  /-- A type, perhaps a sum of bounds; prints nothing. -/
  type : Bool -> Parser TypeSyntax
  /-- A lifetime or a trait; answers whether it is a trait. -/
  bound : BoundForms -> Parser Bool
  /-- An expression, in which a brace may begin the fields of a record or may not. -/
  expression : Bool -> Parser ExpressionShape
  /-- An expression up to the first operator between two operands. -/
  unary : Bool -> Parser ExpressionShape
  /-- What follows a first operand, as far as it binds at least as strongly as given. -/
  continued : Bool -> ExpressionShape -> Precedence -> Parser ExpressionShape
  early : Parser ExpressionShape
  pattern : Parser PatternKind
  statements : Parser Unit
  item : Parser Unit
  /-- What an import names; answers whether all of it could stand in a tree. -/
  useTree : Bool -> Parser Bool

namespace Rules

def exhausted : Rules where
  type := fun _ => Parser.fail "too deep"
  bound := fun _ => Parser.fail "too deep"
  expression := fun _ => Parser.fail "too deep"
  unary := fun _ => Parser.fail "too deep"
  continued := fun _ _ _ => Parser.fail "too deep"
  early := Parser.fail "too deep"
  pattern := Parser.fail "too deep"
  statements := Parser.fail "too deep"
  item := Parser.fail "too deep"
  useTree := fun _ => Parser.fail "too deep"

end Rules

namespace Parser

variable {α : Type}

def silently (parser : Parser α) : Parser α :=
  Prod.fst <$> captured parser

def printType (rules : Rules) (plus : Bool) : Parser Unit := do
  print (← rules.type plus).tokens

/-!
# Attributes
-/

def pathWordAhead : List Token -> Bool :=
  either [identifierAhead, word "super", word "self", word "Self", word "crate"]

def plainPath : Parser PathSyntax := silently do
  let rooted ← takeMark? "::"
  if !(← peek pathWordAhead) then
    let _ ← identifier
  let steps ← chain do
    let (name, _) ← anyWord
    if !(← takeMark? "::") then return (PathStep.plain name, false)
    else if ← peek pathWordAhead then return (PathStep.plain name, true)
    else fail "expected path segment after `::`"
  return ⟨rooted, steps⟩

/-- A value: a literal that ends the list, or an expression. -/
def attributeValue (rules : Rules) : Parser Expression := do
  let lone ← lookahead do
    if ← peek literalAhead then
      literal
      ended
    else return false
  if lone then
    let (_, tokens) ← captured literal
    return ⟨⟨.literal, none⟩, tokens⟩
  else if (← peek (mark "#")) && (← peekSecond (group .bracket)) then
    fail "unexpected attribute inside of attribute"
  else
    let (shape, tokens) ← captured (rules.expression true)
    return ⟨shape, tokens⟩

def attributeContent (rules : Rules) : Parser AttributeContent := silently do
  if ← peek (either [group .parenthesis, group .bracket, group .brace]) then
    let (delimiter, tokens) ← anyGroup
    return .list delimiter tokens
  else if ← takeMark? "=" then return .value (← attributeValue rules)
  else return .word

/-- The path may be the one word `unsafe`. -/
def attributeItem (rules : Rules) : Parser AttributeItem := silently do
  let path ←
    if ← takeWord? "unsafe" then pure (PathSyntax.ofWord "unsafe") else plainPath
  return ⟨path, ← attributeContent rules⟩

def firstSpan : Parser Span := do
  match ← tokens with
  | token :: _ => return token.span
  | [] => return Span.unplaced

def attributeOf (rules : Rules) (inner : Bool) : Parser Attribute := silently do
  let start ← firstSpan
  takeMark "#"
  if inner then takeMark "!"
  let stop ← firstSpan
  let item ← inside .bracket (attributeItem rules)
  return ⟨inner, item, start.through stop⟩

def outerAttributes (rules : Rules) : Parser (List Attribute) :=
  collect do
    if ← peek (mark "#") then return some (← attributeOf rules false) else return none

def innerAttributes (rules : Rules) : Parser (List Attribute) :=
  collect do
    if (← peek (mark "#")) && (← peekSecond (mark "!")) then
      return some (← attributeOf rules true)
    else return none

def printOuterAttributes (rules : Rules) : Parser Unit := do
  print ((← outerAttributes rules).flatMap Attribute.tokens)

def printInnerAttributes (rules : Rules) : Parser Unit := do
  print ((← innerAttributes rules).flatMap Attribute.tokens)

/-!
# Blocks
-/

def plainBlock (rules : Rules) : Parser Unit :=
  inside .brace rules.statements

def block (rules : Rules) : Parser Unit :=
  inside .brace do
    printInnerAttributes rules
    rules.statements

end Parser
end PartialUpdate
