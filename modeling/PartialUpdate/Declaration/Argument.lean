import PartialUpdate.Declaration.Fault
import PartialUpdate.Syntax.Grammar

/-!
# Arguments of attributes

The list of an attribute: literals, and paths alone, with a value or with a list of their
own.  Paths may consist of any words.
-/

namespace PartialUpdate

inductive Argument
  | literal
  | keyed (key : String) (content : AttributeContent)
  deriving Inhabited

namespace PathSyntax

/-- The names of the path as a key; that it is rooted makes no difference. -/
def key (path : PathSyntax) : String :=
  "::".intercalate (path.names.map Identifier.text)

end PathSyntax

namespace Parser

variable {α : Type}

/-- A path of any words, reserved ones included, that is not rooted; prints nothing. -/
def wordPath : Parser PathSyntax := silently do
  let steps ← chain do
    let (name, _) ← anyWord
    let further ← takeMark? "::"
    if further && !(← peek Tokens.startAnyWord) then fail "expected path segment after `::`"
    return (PathStep.plain name, further)
  return ⟨false, steps⟩

def loneLiteralAhead : Parser Bool := do
  let named := (← peek (either [word "true", word "false"])) && (← peekSecond (mark "="))
  return (← peek literalAhead) && !named

def argument (rules : Rules) : Parser Argument := silently do
  if ← loneLiteralAhead then
    literal
    return .literal
  else if ← peek Tokens.startAnyWord then
    let path ← wordPath
    return .keyed path.key (← attributeContent rules)
  else fail "expected identifier or literal"

/-- Items up to the end, with commas between them and perhaps one behind the last. -/
def commaSeparated (item : Parser α) : Parser (List α) :=
  collect do
    if ← ended then return none
    let value ← item
    if !(← ended) then takeMark ","
    return some value

end Parser

namespace Argument

def ofTokens (tokens : List Token) : Except DeclarationError (List Argument) :=
  (Syntax.parseTokens (fun rules => Parser.commaSeparated (Parser.argument rules))
    (Token.unplacedAll tokens)).mapError
      (fun error => DeclarationError.of (.malformed error))

end Argument
end PartialUpdate
