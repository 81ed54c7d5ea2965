import PartialUpdate.Syntax.PatternRules

/-!
# Rules of expressions

Operators are taken by how strongly they bind.  Where the condition of a branch or a loop is
read, a brace begins its block and no record.
-/

namespace PartialUpdate
namespace Parser

def shape (kind : ExpressionKind) : ExpressionShape := ⟨kind, none⟩

/-!
# Operators
-/

/-- Operators between two operands; longer marks stand before those that they begin with. -/
def binaryOperators : List (String × Precedence) :=
  [("+=", .assign), ("-=", .assign), ("*=", .assign), ("/=", .assign), ("%=", .assign),
    ("^=", .assign), ("&=", .assign), ("|=", .assign), ("<<=", .assign), (">>=", .assign),
    ("&&", .and), ("||", .or), ("<<", .shift), (">>", .shift), ("==", .compare), ("<=", .compare),
    ("!=", .compare), (">=", .compare), ("+", .sum), ("-", .sum), ("*", .product),
    ("/", .product), ("%", .product), ("^", .bitXor), ("&", .bitAnd), ("|", .bitOr),
    ("<", .compare), (">", .compare)]

def binaryOperator? (tokens : List Token) : Option (String × Precedence) :=
  binaryOperators.find? (fun entry => mark entry.1 tokens)

def assignmentAhead : List Token -> Bool := markBut "=" ["=>"]

def nextPrecedence : Parser Precedence := do
  match binaryOperator? (← tokens) with
  | some (_, precedence) => return precedence
  | none =>
      if ← peek assignmentAhead then return .assign
      else if ← peek (mark "..") then return .range
      else if ← peek (word "as") then return .cast
      else return .jump

/-- Extends an operand by what binds more strongly than the operator before it. -/
def extendOperand (rules : Rules) (record : Bool) (precedence : Precedence) :
    Nat -> ExpressionShape -> Parser Unit
  | 0, _ => return
  | fuel + 1, operand => do
      let next ← nextPrecedence
      if precedence.lt next || (next = precedence && precedence = .assign) then
        let before := (← tokens).length
        let extended ← rules.continued record operand next
        if (← tokens).length = before then return
        extendOperand rules record precedence fuel extended

def rightOperand (rules : Rules) (record : Bool) (precedence : Precedence) : Parser Unit := do
  let first ← rules.unary record
  extendOperand rules record precedence ((← tokens).length + 1) first

def openRangeStop (record : Bool) (tokens : List Token) : Bool :=
  either [List.isEmpty, mark ",", mark ";", markBut "." [".."], mark "?", mark "=>", mark "=",
    mark "+", mark "/", mark "%", mark "^", mark ">", mark "<=", mark "!=", mark "-=", mark "*=",
    mark "&=", mark "|=", mark "<<=", word "as"] tokens
    || (!record && group .brace tokens)

def enclosingFirst : List Token -> List Token
  | [] => []
  | token :: rest => Token.parenthesized [token] :: rest

/-- The end of a range, if there is one.  Where a brace begins no record, the end is printed so
that it does not begin with one. -/
def rangeRest (rules : Rules) (record : Bool) : Parser ExpressionShape := do
  let closed ← rangeMark false
  if closed || !(← peek (openRangeStop record)) then
    let ambiguous := !record && (← peek (group .brace))
    let (_, printed) ← captured (rightOperand rules record .range)
    print (if ambiguous then enclosingFirst printed else printed)
  return shape .range

/-- A cast may not be followed by an operation on its value. -/
def checkCast : Parser Unit := do
  let refuse (what : String) : Parser Unit := fail ("casts cannot be followed by " ++ what)
  if ← peek (markBut "." [".."]) then
    if ← peekSecond (word "await") then refuse "`.await`"
    else if (← peekSecond identifierAhead)
        && (← peekThird (either [group .parenthesis, mark "::"])) then
      refuse "a method call"
    else refuse "a field access"
  else if ← peek (mark "?") then refuse "`?`"
  else if ← peek (group .bracket) then refuse "indexing"
  else if ← peek (group .parenthesis) then refuse "a function call"

def continuedRule (rules : Rules) (record : Bool) (left : ExpressionShape) (base : Precedence) :
    Parser ExpressionShape := do
  if left.kind = .range then return left
  match binaryOperator? (← tokens) with
  | some (operator, precedence) =>
      if precedence.lt base then return left
      if precedence = .compare && left.kind = .binary .compare then
        fail "comparison operators cannot be chained"
      takeMark operator
      rightOperand rules record precedence
      rules.continued record (shape (.binary precedence)) base
  | none =>
      if base.le .assign && (← peek assignmentAhead) then
        takeMark "="
        rightOperand rules record .assign
        rules.continued record (shape .assignment) base
      else if base.le .range && (← peek (mark "..")) then rangeRest rules record
      else if base.le .cast && (← peek (word "as")) then
        takeWord "as"
        printType rules false
        checkCast
        rules.continued record (shape .cast) base
      else return left

/-!
# Operations behind an operand
-/

/-- The numbers of tuple fields in a float literal; a point at its end stands for itself, and a
sign before it belongs to the first number. -/
def fieldNumbers (negative : Bool) (text : String) : Except SyntaxError (List String × Bool) := do
  let pieces := text.splitOn "."
  let dotted := pieces.getLast? == some ""
  let numbers ← (if dotted then pieces.dropLast else pieces).zipIdx.mapM (fun (piece, position) =>
    Tokens.memberNumberOfPart (negative && position == 0) piece)
  return (numbers, dotted)

/-- Takes a float literal behind a point; answers whether the point still waits for a member. -/
def fieldsInFloat : Parser Bool := do
  match ← tokens with
  | .literal .float text span :: _ => takeNumbers false text span
  | .punctuation '-' _ _ :: .literal .float text span :: _ => takeNumbers true text span
  | _ => return true
where
  takeNumbers (negative : Bool) (text : String) (span : Span) : Parser Bool := do
    let (numbers, dotted) ← fieldNumbers negative text
    drop (if negative then 2 else 1)
    let literals := numbers.map (fun number => [Token.literal .integer number span])
    print ((Token.operator ".").intercalate literals)
    if dotted then print (Token.operator ".")
    return dotted

def expressionList (rules : Rules) : Parser Unit :=
  separated "," (do let _ ← rules.expression true)

def callArguments (rules : Rules) : Parser Unit :=
  inside .parenthesis (expressionList rules)

/-- Arguments in angle brackets behind a separator. -/
def turbofish (rules : Rules) : Parser Unit := do
  takeMark "::"
  let (arguments, _) ← captured (genericArguments rules)
  print (Token.operator "<" ++ PrintedArgument.arrange (GenericArgument.printed arguments)
    ++ Token.operator ">")

def memberRest (rules : Rules) : Parser ExpressionShape := do
  takeMark "."
  if !(← fieldsInFloat) then return shape .field
  if ← takeWord? "await" then return shape .await
  let named ← member
  if named then
    let generic ← peek (mark "::")
    if generic then turbofish rules
    if generic || (← peek (group .parenthesis)) then
      callArguments rules
      return shape .methodCall
  return shape .field

def trailer? (rules : Rules) (operand : ExpressionShape) : Parser (Option ExpressionShape) := do
  let range := operand.kind = .range
  if ← peek (group .parenthesis) then
    callArguments rules
    return some (shape .call)
  else if !range && (← peek (markBut "." [".."])) then return some (← memberRest rules)
  else if ← peek (group .bracket) then
    inside .bracket (do let _ ← rules.expression true)
    return some (shape .index)
  else if !range && (← peek (mark "?")) then
    takeMark "?"
    return some (shape .question)
  else return none

def trailersWithin (rules : Rules) : Nat -> ExpressionShape -> Parser ExpressionShape
  | 0, operand => return operand
  | fuel + 1, operand => do
      match ← trailer? rules operand with
      | none => return operand
      | some next => trailersWithin rules fuel next

def trailers (rules : Rules) (operand : ExpressionShape) : Parser ExpressionShape := do
  trailersWithin rules ((← tokens).length + 1) operand

/-!
# Branches and loops
-/

def conditional (rules : Rules) : Parser ExpressionShape := do
  repeated do
    takeWord "if"
    let _ ← rules.expression false
    plainBlock rules
    if !(← takeWord? "else") then return false
    if ← peek (word "if") then return true
    if ← peek (group .brace) then plainBlock rules else noneOf ["`if`", "curly braces"]
    return false
  return shape .conditional

def whileLoop (rules : Rules) : Parser ExpressionShape := do
  takeWord "while"
  let _ ← rules.expression false
  block rules
  return shape .whileLoop

def forLoop (rules : Rules) : Parser ExpressionShape := do
  takeWord "for"
  let _ ← fullPattern rules
  takeWord "in"
  let _ ← rules.expression false
  block rules
  return shape .forLoop

def loop (rules : Rules) : Parser ExpressionShape := do
  takeWord "loop"
  block rules
  return shape .loop

def wordBlock (rules : Rules) (text : String) (kind : ExpressionKind) : Parser ExpressionShape := do
  takeWord text
  block rules
  return shape kind

def tryBlock (rules : Rules) : Parser ExpressionShape := do
  takeWord "try"
  plainBlock rules
  return shape .tryBlock

def asyncBlock (rules : Rules) : Parser ExpressionShape := do
  takeWord "async"
  let _ ← takeWord? "move"
  plainBlock rules
  return shape .asyncBlock

def bareBlock (rules : Rules) : Parser ExpressionShape := do
  block rules
  return shape .block

def labelled (rules : Rules) : Parser ExpressionShape := do
  takeLifetime
  takeMark ":"
  if ← peek (word "while") then whileLoop rules
  else if ← peek (word "for") then forLoop rules
  else if ← peek (word "loop") then loop rules
  else if ← peek (group .brace) then bareBlock rules
  else fail "expected loop or block expression"

/-!
# Jumps
-/

def expressionAhead (tokens : List Token) : Bool :=
  Tokens.startAnyWord tokens && !word "as" tokens
    || either [group .parenthesis, group .bracket, group .brace, literalAhead, markBut "!" ["!="],
      markBut "-" ["-=", "->"], markBut "*" ["*="], markBut "|" ["|="], markBut "&" ["&="],
      mark "..", markBut "<" ["<=", "<<="], mark "::", lifetimeAhead, mark "#"] tokens

def breaking (rules : Rules) (record : Bool) : Parser ExpressionShape := do
  takeWord "break"
  if ← peek lifetimeAhead then
    if ← peekSecond (mark ":") then
      let _ ← rules.expression true
      throw (.other "parentheses required")
    takeLifetime
  if (← peek expressionAhead) && (record || !(← peek (group .brace))) then
    let _ ← rules.expression true
  return shape .breaking

def jump (rules : Rules) (text : String) (kind : ExpressionKind) : Parser ExpressionShape := do
  takeWord text
  if ← peek expressionAhead then
    let _ ← rules.expression true
  return shape kind

/-!
# Closures
-/

/-- Whether a closure begins here with parameters of its own, and not a loop. -/
def binderAhead : Parser Bool := do
  return (← peek (word "for")) && (← peekSecond parametersAhead)

def closureAhead : Parser Bool := do
  if ← peek (either [mark "|", word "move", word "static"]) then return true
  if ← binderAhead then return true
  if (← peek (word "const")) && !(← peekSecond (group .brace)) then return true
  return (← peek (word "async")) && (← peekSecond (either [mark "|", word "move"]))

/-- An input of a closure.  Attributes bind to a pattern without a type: a range is put in
parentheses behind them, and a pattern that is kept as it stood loses them. -/
def closureInput (rules : Rules) : Parser Unit := do
  let attributes ← outerAttributes rules
  let lead := attributes.flatMap Attribute.tokens
  let (kind, pattern) ← captured rules.pattern
  if ← peek (mark ":") then
    print (lead ++ pattern)
    takeMark ":"
    printType rules true
  else if kind = .verbatim then print pattern
  else if kind.isRange && !lead.isEmpty then print (lead ++ [Token.parenthesized pattern])
  else print (lead ++ pattern)

def closure (rules : Rules) (record : Bool) : Parser ExpressionShape := do
  let _ ← binder? rules
  takeWords? ["const", "static", "async", "move"]
  takeMark "|"
  separatedUntil "," (mark "|") (closureInput rules)
  takeMark "|"
  if ← takeMark? "->" then
    printType rules true
    plainBlock rules
  else
    let _ ← rules.expression record
  return shape .closure

/-!
# Paths, records and calls of macros
-/

def recordFields (rules : Rules) : Parser Unit :=
  inside .brace do
    repeated do
      if ← ended then return false
      if ← takeMark? ".." then
        if !(← ended) then
          let _ ← rules.expression true
        return false
      printOuterAttributes rules
      let named ← member
      if !named || (← peek (mark ":")) then
        takeMark ":"
        let _ ← rules.expression true
      if ← ended then return false
      takeMark ","
      return true

def pathAhead : Parser Bool := do
  if ← peek (either [identifierAhead, mark "::", mark "<", word "self", word "Self", word "super",
      word "crate"]) then
    return true
  else return (← peek (word "try")) && (← peekSecond (either [mark "!", mark "::"]))

def pathExpression (rules : Rules) (record : Bool) : Parser ExpressionShape := do
  let start ← qualifiedPath rules true
  print start.tokens
  if !start.qualified && (← macroAhead start.path) then
    let _ ← macroRest
    return shape .macroCall
  if record && (← peek (group .brace)) then
    recordFields rules
    return shape .record
  return ⟨.path, some start.path⟩

/-!
# Brackets
-/

def parenthesesExpression (rules : Rules) : Parser ExpressionShape :=
  inside .parenthesis do
    if ← ended then return shape .tuple
    let _ ← rules.expression true
    if ← ended then return shape .parenthesized
    takeMark ","
    expressionList rules
    return shape .tuple

def bracketsExpression (rules : Rules) : Parser ExpressionShape :=
  inside .bracket do
    if ← ended then return shape .array
    let _ ← rules.expression true
    if ← ended then return shape .array
    if ← takeMark? "," then
      expressionList rules
      return shape .array
    if ← takeMark? ";" then
      let _ ← rules.expression true
      return shape .repetition
    fail "expected `,` or `;`"

/-!
# Arms
-/

def arm (rules : Rules) : Parser Unit := do
  printOuterAttributes rules
  let _ ← fullPattern rules
  if ← takeWord? "if" then
    let _ ← rules.expression true
  takeMark "=>"
  let body ← rules.early
  if !body.kind.endsItself && !(← ended) then takeMark ","
  else
    let _ ← takeMark? ","

def matchExpression (rules : Rules) : Parser ExpressionShape := do
  takeWord "match"
  let _ ← rules.expression false
  inside .brace do
    printInnerAttributes rules
    repeated do
      if ← ended then return false
      arm rules
      return true
  return shape .matching

/-!
# Operands
-/

/-- Expressions that may end a statement or an arm by their last brace. -/
def selfEnding? (rules : Rules) : Parser (Option ExpressionShape) := do
  if ← peek (word "if") then return some (← conditional rules)
  else if ← peek (word "while") then return some (← whileLoop rules)
  else if (← peek (word "for")) && !(← binderAhead) then return some (← forLoop rules)
  else if ← peek (word "loop") then return some (← loop rules)
  else return none

def wordExpression? (rules : Rules) (record : Bool) : Parser (Option ExpressionShape) := do
  if ← peek (word "break") then return some (← breaking rules record)
  else if ← peek (word "continue") then
    takeWord "continue"
    let _ ← takeLifetime?
    return some (shape .continuing)
  else if ← peek (word "return") then return some (← jump rules "return" .returning)
  else if ← peek (word "become") then
    takeWord "become"
    let _ ← rules.expression true
    return some (shape .verbatim)
  else if ← peek (word "let") then
    takeWord "let"
    let _ ← fullPattern rules
    takeMark "="
    let left ← rules.unary record
    let _ ← rules.continued record left .compare
    return some (shape .letting)
  else if ← peek (word "match") then return some (← matchExpression rules)
  else if ← peek (word "yield") then return some (← jump rules "yield" .yielding)
  else if ← peek (word "unsafe") then return some (← wordBlock rules "unsafe" .unsafeBlock)
  else if ← peek (word "const") then return some (← wordBlock rules "const" .constBlock)
  else if ← peek (word "_") then
    takeWord "_"
    return some (shape .inferred)
  else selfEnding? rules

def operand (rules : Rules) (record : Bool) : Parser ExpressionShape := do
  if ← peek literalAhead then
    literal
    return shape .literal
  if ← peek (word "async") then
    if ← peekSecond (group .brace) then return ← asyncBlock rules
    if (← peekSecond (word "move")) && (← peekThird (group .brace)) then return ← asyncBlock rules
  if (← peek (word "try")) && (← peekSecond (group .brace)) then return ← tryBlock rules
  if ← closureAhead then return ← closure rules record
  if ← builtinAhead then
    print (← builtinForm)
    return shape .verbatim
  if ← pathAhead then return ← pathExpression rules record
  if ← peek (group .parenthesis) then return ← parenthesesExpression rules
  if ← peek (group .bracket) then return ← bracketsExpression rules
  match ← wordExpression? rules record with
  | some found => return found
  | none =>
      if ← peek (group .brace) then bareBlock rules
      else if ← peek (mark "..") then rangeRest rules record
      else if ← peek lifetimeAhead then labelled rules
      else fail "expected an expression"

def attributedOperand (rules : Rules) (record : Bool) : Parser ExpressionShape := do
  let attributes ← outerAttributes rules
  print (attributes.flatMap Attribute.tokens)
  if ← takeMark? "&" then
    let raw ←
      if (← peek (word "raw")) && (← peekSecond (either [word "mut", word "const"])) then
        takeWord? "raw"
      else pure false
    let mutable ← takeWord? "mut"
    if raw && !mutable then takeWord "const"
    let _ ← rules.unary record
    return shape (if raw then .rawReference else .reference)
  for operator in ["*", "!", "-"] do
    if ← takeMark? operator then
      let _ ← rules.unary record
      return shape .unary
  let found ← trailers rules (← operand rules record)
  if found.kind = .range && !attributes.isEmpty then
    throw (.other "attributes are not allowed on range expressions starting with `..`")
  return found

/-- Forms that are accepted without being understood are printed as they stood. -/
def unaryRule (rules : Rules) (record : Bool) : Parser ExpressionShape := do
  let ((found, printed), source) ← taken (captured (attributedOperand rules record))
  print (if found.kind = .verbatim then source else printed)
  return found

def withAttributes (attributes : List Attribute) (kind : ExpressionKind) (printed : List Token) :
    List Token :=
  let lead := attributes.flatMap Attribute.tokens
  if kind = .range && !attributes.isEmpty then lead ++ [Token.parenthesized printed]
  else lead ++ printed

/-- An expression that ends as early as statements and arms demand.  Forms that are not
understood lose their attributes here. -/
def earlyRule (rules : Rules) : Parser ExpressionShape := do
  let attributes ← outerAttributes rules
  let (first, printed) ← captured do
    match ← selfEnding? rules with
    | some found => pure found
    | none =>
        if ← peek (word "match") then matchExpression rules
        else if (← peek (word "try")) && (← peekSecond (group .brace)) then tryBlock rules
        else if ← peek (word "unsafe") then wordBlock rules "unsafe" .unsafeBlock
        else if (← peek (word "const")) && (← peekSecond (group .brace)) then
          wordBlock rules "const" .constBlock
        else if ← peek (group .brace) then bareBlock rules
        else if ← peek lifetimeAhead then labelled rules
        else unaryRule rules true
  if first.kind = .verbatim then print printed
  else print (withAttributes attributes first.kind printed)
  if !first.kind.endsItself then continuedRule rules true first .jump
  else if ← peek (either [markBut "." [".."], mark "?"]) then
    continuedRule rules true (← trailers rules first) .jump
  else return first

def expressionRule (rules : Rules) (record : Bool) : Parser ExpressionShape := do
  continuedRule rules record (← unaryRule rules record) .jump

end Parser
end PartialUpdate
