import PartialUpdate.Syntax.Literal

/-!
# Parsers of tokens

A parser takes tokens off the front of a list.  What it takes it also prints: beside the
tokens that are left, the state keeps those that were accepted, in the spelling in which they
are written again.  Parsers that only read leave no print.
-/

namespace PartialUpdate

/-- Why tokens do not fit.  `ended` says that there are none left. -/
inductive SyntaxError
  | expected (what : List String) (ended : Bool)
  /-- Names a mark whether or not tokens are left. -/
  | expectedMark (mark : String)
  | unexpected (ended : Bool)
  /-- Something is left before the end of a group. -/
  | leftOver (delimiter : Delimiter)
  | notLexical
  | other (text : String)
  deriving DecidableEq, Inhabited

namespace SyntaxError

def alternatives : List String -> String
  | [] => "unexpected token"
  | [only] => "expected " ++ only
  | [first, second] => "expected " ++ first ++ " or " ++ second
  | many => "expected one of: " ++ ", ".intercalate many

def message : SyntaxError -> String
  | .expected [] true => "unexpected end of input"
  | .expected what true => "unexpected end of input, " ++ alternatives what
  | .expected what false => alternatives what
  | .expectedMark mark => "expected `" ++ mark ++ "`"
  | .unexpected true => "unexpected end of input"
  | .unexpected false => "unexpected token"
  | .leftOver delimiter => "unexpected token, expected `" ++ delimiter.closing.toString ++ "`"
  | .notLexical => "cannot parse string into token stream"
  | .other text => text

end SyntaxError

/-- Tokens that are left, and tokens that were printed, the last first. -/
structure Cursor where
  rest : List Token
  printed : List Token := []
  /-- The first group that was not read to its end. -/
  leftOver : Option Delimiter := none

abbrev Parser := StateT Cursor (Except SyntaxError)

/-!
# Looking at tokens
-/

namespace Tokens

def reserved : List String :=
  "_" :: Name.keywords.filter (fun word => word != "gen")

def isIdentifier (name : Identifier) : Bool :=
  name.raw || !reserved.contains name.name

/-- Whether a mark of one or more characters stands first. -/
def startMark : List Char -> List Token -> Bool
  | [], _ => false
  | [c], .punctuation d _ _ :: _ => c == d && c != '\''
  | c :: mark, .punctuation d joint _ :: rest => c == d && joint && startMark mark rest
  | _, _ => false

def startWord (word : String) : List Token -> Bool
  | .identifier name _ :: _ => !name.raw && name.name == word
  | _ => false

def startAnyWord : List Token -> Bool
  | .identifier .. :: _ => true
  | _ => false

def startIdentifier : List Token -> Bool
  | .identifier name _ :: _ => isIdentifier name
  | _ => false

def startLifetime : List Token -> Bool
  | .punctuation '\'' true _ :: .identifier .. :: _ => true
  | _ => false

def startGroup (delimiter : Delimiter) : List Token -> Bool
  | .group found _ _ :: _ => found == delimiter
  | _ => false

def isNumber : LiteralKind -> Bool
  | .integer | .float => true
  | _ => false

/-- A literal: a number may have a sign, and truth values are words. -/
def startLiteral : List Token -> Bool
  | .literal .. :: _ => true
  | .punctuation '-' _ _ :: .literal kind _ _ :: _ => isNumber kind
  | tokens => startWord "true" tokens || startWord "false" tokens

def startString : List Token -> Bool
  | .literal .string _ _ :: _ => true
  | _ => false

def digitsValue? (radix : Nat) (digits : List Char) : Option Nat :=
  digits.foldlM (fun value c =>
    if c = '_' then some value
    else (Literal.hexValue? c).bind (fun digit =>
      if digit < radix then some (value * radix + digit) else none)) 0

def memberBound : Nat := Nat.pow 2 32

/-- The number of a tuple field in plain decimals: it may not have a suffix. -/
def memberNumber (negative : Bool) (text : String) : Except SyntaxError String :=
  let (radix, digits) := Literal.radix text.toList
  match digitsValue? radix digits with
  | none => .error (.other "expected unsuffixed integer")
  | some value =>
      if negative then .error (.other "invalid digit found in string")
      else if value < memberBound then .ok (toString value)
      else .error (.other "number too large to fit in target type")

def memberNumberOfPart (negative : Bool) (text : String) : Except SyntaxError String :=
  match Literal.scan text.toList with
  | some (.integer, []) => memberNumber negative text
  | _ => .error (.other "expected integer literal")

/-- The tokens behind the first; a lifetime counts as one. -/
def skipOne (tokens : List Token) : List Token :=
  if startLifetime tokens then tokens.drop 2 else tokens.drop 1

mutual

/-- How many tokens there are, those in groups included. -/
def size : Token -> Nat
  | .group _ content _ => sizeAll content + 1
  | _ => 1

def sizeAll : List Token -> Nat
  | [] => 0
  | token :: rest => size token + sizeAll rest

end

end Tokens

namespace Parser

variable {α : Type}

def tokens : Parser (List Token) := do
  return (← get).rest

def ended : Parser Bool := do
  return (← tokens).isEmpty

def peek (test : List Token -> Bool) : Parser Bool := do
  return test (← tokens)

def peekSecond (test : List Token -> Bool) : Parser Bool := do
  return test (Tokens.skipOne (← tokens))

def peekThird (test : List Token -> Bool) : Parser Bool := do
  return test (Tokens.skipOne (Tokens.skipOne (← tokens)))

def mark (text : String) : List Token -> Bool := Tokens.startMark text.toList

def word (text : String) : List Token -> Bool := Tokens.startWord text

def identifierAhead : List Token -> Bool := Tokens.startIdentifier

def lifetimeAhead : List Token -> Bool := Tokens.startLifetime

def literalAhead : List Token -> Bool := Tokens.startLiteral

def group (delimiter : Delimiter) : List Token -> Bool := Tokens.startGroup delimiter

def either (tests : List (List Token -> Bool)) (tokens : List Token) : Bool :=
  tests.any (fun test => test tokens)

def markBut (text : String) (longer : List String) (tokens : List Token) : Bool :=
  mark text tokens && !longer.any (fun other => mark other tokens)

/-!
# Failing
-/

def expected (what : List String) : Parser α := do
  throw (.expected what (← ended))

def fail (text : String) : Parser α := do
  if ← ended then throw (.other ("unexpected end of input, " ++ text)) else throw (.other text)

def noneOf (what : List String) : Parser α :=
  expected what

/-!
# Taking and printing
-/

def print (tokens : List Token) : Parser Unit :=
  modify (fun cursor => { cursor with printed := tokens.reverse ++ cursor.printed })

def drop (n : Nat) : Parser Unit :=
  modify (fun cursor => { cursor with rest := cursor.rest.drop n })

def anyToken : Parser Unit := do
  match ← tokens with
  | [] => expected ["token"]
  | token :: _ => do
      drop 1
      print [token]

/-- Takes a mark, printed without spaces inside. -/
def takeMark (text : String) : Parser Unit := do
  if ← peek (mark text) then
    drop text.length
    print (Token.operator text)
  else throw (.expectedMark text)

def skipMark (text : String) : Parser Unit := do
  if ← peek (mark text) then drop text.length else throw (.expectedMark text)

def takeMark? (text : String) : Parser Bool := do
  if ← peek (mark text) then
    takeMark text
    return true
  else return false

def takeWord (text : String) : Parser Unit := do
  if ← peek (word text) then anyToken else expected ["`" ++ text ++ "`"]

def takeWord? (text : String) : Parser Bool := do
  if ← peek (word text) then
    anyToken
    return true
  else return false

def takeWords? (texts : List String) : Parser Unit :=
  texts.forM (fun text => do let _ ← takeWord? text)

def anyWord : Parser (Identifier × Span) := do
  match ← tokens with
  | .identifier name span :: _ => do
      anyToken
      return (name, span)
  | _ => expected ["ident"]

def identifier : Parser (Identifier × Span) := do
  match ← tokens with
  | .identifier name span :: _ => do
      if Tokens.isIdentifier name then
        anyToken
        return (name, span)
      else fail ("expected identifier, found keyword `" ++ name.text ++ "`")
  | _ => expected ["identifier"]

def takeLifetime : Parser Unit := do
  if ← peek lifetimeAhead then
    anyToken
    anyToken
  else expected ["lifetime"]

def takeLifetime? : Parser Bool := do
  if ← peek lifetimeAhead then
    takeLifetime
    return true
  else return false

/-- A literal; a number may have a sign, which is printed apart from it. -/
def literal : Parser Unit := do
  match ← tokens with
  | .punctuation '-' _ span :: .literal kind _ _ :: _ => do
      if Tokens.isNumber kind then
        drop 1
        print [.punctuation '-' false span]
        anyToken
      else expected ["literal"]
  | token :: rest => do
      if Tokens.startLiteral (token :: rest) then anyToken else expected ["literal"]
  | [] => expected ["literal"]

def takeString : Parser String := do
  match ← tokens with
  | .literal .string text _ :: _ => do
      anyToken
      return text
  | _ => expected ["string literal"]

/-!
# Running parsers on parts
-/

/-- The result of a parser and what it printed, which is not printed here. -/
def captured (parser : Parser α) : Parser (α × List Token) := do
  let outer := (← get).printed
  modify (fun cursor => { cursor with printed := [] })
  let value ← parser
  let inner := (← get).printed
  modify (fun cursor => { cursor with printed := outer })
  return (value, inner.reverse)

/-- Nothing happens if the parser fails. -/
def attempt (parser : Parser α) : Parser (Option α) := fun cursor =>
  match parser cursor with
  | .ok (value, next) => .ok (some value, next)
  | .error _ => .ok (none, cursor)

def succeeds (parser : Parser α) : Parser Bool := fun cursor =>
  match parser cursor with
  | .ok _ => .ok (true, cursor)
  | .error _ => .ok (false, cursor)

/-- The result of a parser that takes nothing. -/
def lookahead (parser : Parser α) : Parser α := fun cursor =>
  match parser cursor with
  | .ok (value, _) => .ok (value, cursor)
  | .error e => .error e

def taken (parser : Parser α) : Parser (α × List Token) := do
  let before ← tokens
  let (value, _) ← captured parser
  let after ← tokens
  return (value, before.take (before.length - after.length))

/-- The result of a parser that takes all of the tokens, those inside of groups included. -/
def runAll (parser : Parser α) (tokens : List Token) : Except SyntaxError α := do
  let (value, cursor) ← parser.run ⟨tokens, [], none⟩
  match cursor.leftOver with
  | some delimiter => throw (.leftOver delimiter)
  | none => if cursor.rest.isEmpty then return value else throw (.unexpected false)

def delimiterName : Delimiter -> String
  | .parenthesis => "parentheses"
  | .bracket => "square brackets"
  | .brace => "curly braces"

/-- The content of a group, which is printed as a group again. -/
def inside (delimiter : Delimiter) (parser : Parser α) : Parser α := fun cursor =>
  match cursor.rest with
  | .group found content span :: rest => do
      if found = delimiter then
        let (value, inner) ← parser ⟨content, [], cursor.leftOver⟩
        let leftOver := inner.leftOver.or (if inner.rest.isEmpty then none else some delimiter)
        return (value, ⟨rest, .group delimiter inner.printed.reverse span :: cursor.printed, leftOver⟩)
      else expected [delimiterName delimiter] cursor
  | _ => expected [delimiterName delimiter] cursor

def anyGroup : Parser (Delimiter × List Token) := do
  match ← tokens with
  | .group delimiter content _ :: _ => do
      anyToken
      return (delimiter, content)
  | _ => expected ["delimiter"]

/-!
# Repetition

A step answers whether another one follows.  Every step but the last takes a token, so the
number of tokens bounds the number of steps.
-/

def repeatWithin : Nat -> Parser Bool -> Parser Unit
  | 0, _ => throw (.unexpected false)
  | fuel + 1, step => do
      if ← step then repeatWithin fuel step

def repeated (step : Parser Bool) : Parser Unit := do
  repeatWithin ((← tokens).length + 2) step

def collectWithin : Nat -> Parser (Option α) -> Parser (List α)
  | 0, _ => throw (.unexpected false)
  | fuel + 1, step => do
      match ← step with
      | none => return []
      | some value => return value :: (← collectWithin fuel step)

def collect (step : Parser (Option α)) : Parser (List α) := do
  collectWithin ((← tokens).length + 2) step

def chainWithin : Nat -> Parser (α × Bool) -> Parser (List α)
  | 0, _ => throw (.unexpected false)
  | fuel + 1, step => do
      let (value, more) ← step
      if more then return value :: (← chainWithin fuel step) else return [value]

/-- The results of a step, which is repeated as long as it asks for it. -/
def chain (step : Parser (α × Bool)) : Parser (List α) := do
  chainWithin ((← tokens).length + 2) step

/-- Items up to the end, with marks between them and perhaps one behind the last. -/
def separated (separator : String) (item : Parser Unit) : Parser Unit :=
  repeated do
    if ← ended then return false
    item
    if ← ended then return false
    takeMark separator
    return true

/-- Items with marks between them and perhaps one behind the last, until a test holds. -/
def separatedUntil (separator : String) (stop : List Token -> Bool) (item : Parser Unit) :
    Parser Unit :=
  repeated do
    if ← peek stop then return false
    item
    if ← peek stop then return false
    takeMark separator
    return true

def separatedWhile (separator : String) (stop : List Token -> Bool) (item : Parser Unit) :
    Parser Unit :=
  repeated do
    if ← peek stop then return false
    item
    takeMark? separator

end Parser
end PartialUpdate
