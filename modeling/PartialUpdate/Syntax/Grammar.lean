import PartialUpdate.Syntax.ItemRules
import PartialUpdate.Syntax.Lexer

/-!
# The grammar

The rules tied together, level by level, and the texts that they are applied to.
-/

namespace PartialUpdate

namespace Rules

def above (rules : Rules) : Rules where
  type := Parser.typeRule rules
  bound := Parser.boundRule rules
  expression := Parser.expressionRule rules
  unary := Parser.unaryRule rules
  continued := Parser.continuedRule rules
  early := Parser.earlyRule rules
  pattern := Parser.patternRule rules
  statements := Parser.statementsRule rules
  item := Parser.itemRule rules
  useTree := Parser.useTreeRule rules

def ofDepth (depth : Nat) : Rules :=
  Nat.repeat above depth exhausted

/-- Rules that go deep enough for all of the tokens. -/
def forTokens (tokens : List Token) : Rules :=
  ofDepth (2 * Tokens.sizeAll tokens + 8)

end Rules

/-!
# Texts
-/

namespace Syntax

variable {α : Type}

def parseTokens (parser : Rules -> Parser α) (tokens : List Token) : Except SyntaxError α :=
  Parser.runAll (parser (Rules.forTokens tokens)) tokens

def parseText (parser : Rules -> Parser α) (text : String) : Except SyntaxError α :=
  match Token.lex? text with
  | none => .error .notLexical
  | some tokens => parseTokens parser tokens

def type (text : String) : Except SyntaxError TypeSyntax :=
  parseText (fun rules => rules.type true) text

def path (text : String) : Except SyntaxError PathSyntax :=
  parseText (fun rules => Parser.path rules false) text

def expression (text : String) : Except SyntaxError Expression :=
  parseText (fun rules => do
    let (shape, tokens) ← Parser.captured (rules.expression true)
    return ⟨shape, tokens⟩) text

def attributes (text : String) : Except SyntaxError (List Attribute) :=
  parseText Parser.outerAttributes text

/-!
# Files
-/

/-- A first line that names an interpreter, which is no attribute. -/
def withoutInterpreter (text : List Char) : List Char :=
  match text with
  | '#' :: '!' :: rest =>
      if (Lexer.skipAllBlank rest).head? = some '[' then text
      else text.dropWhile (fun c => c != '\n')
  | _ => text

def withoutOrderMark (text : List Char) : List Char :=
  match text with
  | '\ufeff' :: rest => rest
  | _ => text

def file (text : String) : Except SyntaxError (List Token × List Item) :=
  parseText Parser.file
    (String.ofList (withoutInterpreter (withoutOrderMark text.toList)))

def module (tokens : List Token) : Except SyntaxError ModuleSyntax :=
  parseTokens Parser.moduleSyntax tokens

end Syntax
end PartialUpdate
