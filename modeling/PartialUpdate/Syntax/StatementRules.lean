import PartialUpdate.Syntax.ExpressionRules

/-!
# Rules of statements
-/

namespace PartialUpdate
namespace Parser

def endsWithBrace (tokens : List Token) : Bool :=
  match tokens.getLast? with
  | some (.group .brace _ _) => true
  | _ => false

/-!
# Beginnings
-/

/-- What a path of words and a mark begin at the front of a statement. -/
inductive MacroStart
  | item
  | statement
  | none

def macroStart : Parser MacroStart := lookahead do
  match ← attempt plainPath with
  | Option.none => return .none
  | some _ =>
      if !(← peek (mark "!")) then return .none
      else if ← peekSecond (either [identifierAhead, word "try"]) then return .item
      else if ← peekSecond (group .brace) then
        if ← peekThird (either [markBut "." [".."], mark "?"]) then return .none
        else return .statement
      else return .none

def staticItemAhead : Parser Bool := do
  if ← peekSecond (word "mut") then return true
  if !(← peekSecond identifierAhead) then return false
  return !((← peekSecond (word "async")) && (← peekThird (either [word "move", mark "|"])))

def constantItemAhead : Parser Bool := do
  if ← peekSecond (either [group .brace, word "static", word "move", mark "|"]) then return false
  if ← peekSecond (word "async") then
    peekThird (either [word "unsafe", word "extern", word "fn"])
  else return true

def itemAhead : Parser Bool := do
  if ← peek (either [word "pub", word "extern", word "use", word "fn", word "mod", word "type",
      word "struct", word "enum", word "trait", word "impl", word "macro"]) then return true
  if ← peek (word "crate") then return !(← peekSecond (mark "::"))
  if ← peek (word "static") then return ← staticItemAhead
  if ← peek (word "const") then return ← constantItemAhead
  if ← peek (word "unsafe") then return !(← peekSecond (group .brace))
  if ← peek (word "async") then
    return ← peekSecond (either [word "unsafe", word "extern", word "fn"])
  if ← peek (word "union") then return ← peekSecond identifierAhead
  if ← peek (word "auto") then return ← peekSecond (word "trait")
  if ← peek (word "default") then return ← peekSecond (either [word "unsafe", word "impl"])
  return false

/-!
# Statements

Each answers whether it must be separated from the next one.
-/

def macroStatement : Parser Bool := do
  print (← plainPath).tokens
  let _ ← macroRest
  let _ ← takeMark? ";"
  return false

def localStatement (rules : Rules) : Parser Bool := do
  takeWord "let"
  let _ ← rules.pattern
  if ← takeMark? ":" then printType rules true
  if ← takeMark? "=" then
    let (_, value) ← captured (rules.expression true)
    print value
    if !endsWithBrace value && (← takeWord? "else") then plainBlock rules
  takeMark ";"
  return false

def expressionStatement (rules : Rules) (attributes : List Attribute) : Parser Bool := do
  let (shape, printed) ← captured (earlyRule rules)
  print (withAttributes attributes shape.kind printed)
  if ← takeMark? ";" then return false
  if shape.kind = .macroCall then return !endsWithBrace printed
  return !shape.kind.endsItself

/-- The attributes before an item belong to the item. -/
def statement (rules : Rules) : Parser Bool := do
  let start ← get
  let attributes ← outerAttributes rules
  let begins ← macroStart
  if begins matches .statement then
    print (attributes.flatMap Attribute.tokens)
    macroStatement
  else if ← peek (word "let") then
    print (attributes.flatMap Attribute.tokens)
    localStatement rules
  else if begins matches .item then
    set start
    rules.item
    return false
  else if ← itemAhead then
    set start
    rules.item
    return false
  else expressionStatement rules attributes

def statementsRule (rules : Rules) : Parser Unit :=
  repeated do
    if ← takeMark? ";" then return true
    if ← ended then return false
    let separate ← statement rules
    if ← ended then return false
    if separate then fail "unexpected token, expected `;`"
    return true

end Parser
end PartialUpdate
