import PartialUpdate.Syntax.PathRules

/-!
# Rules of types

Types are read without being printed.  Where a sum of bounds could be mistaken for something
else, a plus does not belong to the type.
-/

namespace PartialUpdate
namespace Parser

/-!
# Sums of bounds
-/

/-- Bounds of which one at least must be a trait. -/
def traitBounds (rules : Rules) (forms : BoundForms) (plus : Bool) (message : String) :
    Parser Unit := do
  if !(← bounds rules forms plus) then throw (.other message)

def objectBounds (rules : Rules) (plus : Bool) : Parser Unit :=
  traitBounds rules ⟨false, false⟩ plus "at least one trait is required for an object type"

/-- Bounds behind a first one, as long as pluses follow. -/
def furtherBounds (rules : Rules) : Parser Unit :=
  repeated do
    if ← takeMark? "+" then
      let _ ← boundRule rules ⟨false, false⟩
      return true
    else return false

/-- Bounds behind a first one; a plus at the end is accepted. -/
def furtherBoundsLoosely (rules : Rules) : Parser Unit :=
  repeated do
    if ← takeMark? "+" then
      if ← peek (boundAhead ⟨false, false⟩) then
        let _ ← boundRule rules ⟨false, false⟩
        return true
      else return false
    else return false

/-!
# Function types
-/

def abi? : Parser Bool := do
  if ← takeWord? "extern" then
    if ← peek Tokens.startString then
      let _ ← takeString
    return true
  else return false

def nameAhead : List Token -> Bool := either [identifierAhead, word "_"]

def variadicAhead : Parser Bool := do
  if ← peek (mark "...") then return true
  else return (← peek nameAhead) && (← peekSecond (mark ":")) && (← peekThird (mark "..."))

def mutableSelfAhead : Parser Bool := do
  return (← peek (word "mut")) && (← peekSecond (word "self"))

/-- An input of a function type, perhaps with a name.  The first input may be the value itself;
where that is changeable the input is printed as it stood. -/
def namedInput (rules : Rules) (first : Bool) : Parser Unit := do
  let ((plain, printed), source) ← taken (captured input)
  print (if plain then printed else source)
where
  input : Parser Bool := do
    let changeable := first && (← mutableSelfAhead)
    if changeable then takeWord "mut"
    let selfAhead := first && (← peek (word "self"))
    let named ← do
      if (selfAhead || (← peek nameAhead)) && (← peekSecond (markBut ":" ["::"])) then
        let _ ← anyWord
        takeMark ":"
        pure true
      else pure false
    if first && !(selfAhead && named) && (← mutableSelfAhead) then
      takeWord "mut"
      takeWord "self"
      return false
    else if changeable && !named then
      takeWord "self"
      return false
    else
      printType rules true
      return !changeable

def variadicInput : Parser Unit := do
  if ← peek nameAhead then
    let _ ← anyWord
    takeMark ":"
  takeMark "..."
  let _ ← takeMark? ","

def functionType (rules : Rules) : Parser Unit := do
  let _ ← takeWord? "unsafe"
  let _ ← abi?
  takeWord "fn"
  inside .parenthesis do
    let count := (← tokens).length
    repeated do
      if ← ended then return false
      let first := (← tokens).length = count
      printOuterAttributes rules
      if ← variadicAhead then
        variadicInput
        return false
      namedInput rules first
      if ← ended then return false
      takeMark ","
      return true
  outputType rules false

/-!
# Paths
-/

def macroAhead (path : PathSyntax) : Parser Bool := do
  return path.isPlain && (← peek (markBut "!" ["!="]))

def macroRest : Parser Delimiter := do
  takeMark "!"
  return (← anyGroup).1

/-- A path, a call of a macro or a sum of bounds.  What it holds for all of is lost on a call
of a macro. -/
def pathType (rules : Rules) (plus : Bool) (binder : List Token) : Parser TypeSyntax := do
  let start ← qualifiedPath rules false
  if start.qualified then
    match start.path.steps.getLast? with
    | some last => return .qualified start.tokens last.name
    | none => return .other start.tokens
  let lead := binder ++ start.tokens
  if ← macroAhead start.path then
    let (_, tokens) ← captured macroRest
    return .other (start.tokens ++ tokens)
  else if plus && (← peek (mark "+")) then
    let (_, more) ← captured (furtherBoundsLoosely rules)
    return .other (lead ++ more)
  else if binder.isEmpty then return .path start.path.rooted start.path.steps
  else return .bound false lead

def builtinForm : Parser (List Token) := do
  let (_, source) ← taken do
    takeWord "builtin"
    takeMark "#"
    let _ ← identifier
    if ← peek (group .parenthesis) then
      let _ ← anyGroup
    else expected ["parentheses"]
  return source

def builtinAhead : Parser Bool := do
  return (← peek (word "builtin")) && (← peekSecond (mark "#"))

/-!
# Types in brackets
-/

inductive ParenthesizedType
  | tuple
  | bound
  | single (type : TypeSyntax)

def parenthesizedType (rules : Rules) : Parser ParenthesizedType := do
  if ← ended then return .tuple
  if ← peek lifetimeAhead then
    let (_, tokens) ← captured (objectBounds rules true)
    return .single (.other tokens)
  if ← peek (mark "?") then
    let _ ← traitBound rules ⟨false, false⟩
    return .bound
  let first ← rules.type true
  if ← peek (mark ",") then
    print first.tokens
    takeMark ","
    separated "," (printType rules true)
    return .tuple
  return .single first

/-- The tokens of a type that may stand in parentheses as a trait in a sum. -/
def summand? : TypeSyntax -> Option (List Token)
  | .path rooted steps => some (TypeSyntax.path rooted steps).tokens
  | .bound _ tokens => some tokens
  | _ => none

def typeInParentheses (rules : Rules) (plus : Bool) : Parser TypeSyntax := do
  let (content, tokens) ← captured (inside .parenthesis (parenthesizedType rules))
  let sum (first : List Token) : Parser TypeSyntax := do
    let (_, more) ← captured (furtherBounds rules)
    return if more.isEmpty then .bound true first
      else .other (Token.parenthesized first :: more)
  match content with
  | .tuple => return .other tokens
  | .bound =>
      match tokens with
      | [.group _ content _] => sum content
      | _ => return .other tokens
  | .single type =>
      match summand? type with
      | some first => if plus && (← peek (mark "+")) then sum first else return .parenthesized type
      | none => return .parenthesized type

def typeInBrackets (rules : Rules) : Parser TypeSyntax := do
  let ((element, length), _) ← captured do
    inside .bracket do
      let element ← rules.type true
      if ← takeMark? ";" then
        let (_, length) ← captured (rules.expression true)
        return (element, some length)
      else return (element, none)
  match length with
  | some length => return .array element length
  | none => return .slice element

/-!
# All types
-/

def typeNames : List String :=
  ["`for`", "parentheses", "`fn`", "`unsafe`", "`extern`", "identifier", "`::`", "`<`", "`dyn`",
    "square brackets", "`*`", "`&`", "`!`", "`impl`", "`_`", "lifetime"]

def pathTypeAhead : List Token -> Bool :=
  either [identifierAhead, word "super", word "self", word "Self", word "crate", mark "::",
    mark "<"]

def functionTypeAhead : List Token -> Bool :=
  either [word "fn", word "unsafe", word "extern"]

def pointerType (rules : Rules) : Parser TypeSyntax := do
  let (_, tokens) ← captured do
    takeMark "*"
    if ← peek (word "const") then takeWord "const"
    else if ← peek (word "mut") then takeWord "mut"
    else noneOf ["`const`", "`mut`"]
    printType rules false
  return .other tokens

def referenceType (rules : Rules) : Parser TypeSyntax := do
  let (_, lead) ← captured do
    takeMark "&"
    let _ ← takeLifetime?
    let _ ← takeWord? "mut"
  return .reference lead (← rules.type false)

def objectType (rules : Rules) (plus : Bool) : Parser TypeSyntax := do
  let ((starred, printed), source) ← taken do
    captured do
      takeWord "dyn"
      let starred ← takeMark? "*"
      objectBounds rules plus
      return starred
  return .other (if starred then source else printed)

def unboundType (rules : Rules) (plus : Bool) : Parser TypeSyntax := do
  let other (parser : Parser Unit) : Parser TypeSyntax := do
    return .other (← captured parser).2
  if ← peek (group .parenthesis) then typeInParentheses rules plus
  else if ← peek functionTypeAhead then other (functionType rules)
  else if ← builtinAhead then return .other (← builtinForm)
  else if ← peek pathTypeAhead then pathType rules plus []
  else if ← peek (word "dyn") then objectType rules plus
  else if ← peek (group .bracket) then typeInBrackets rules
  else if ← peek (mark "*") then pointerType rules
  else if ← peek (mark "&") then referenceType rules
  else if ← peek (mark "!") then other (takeMark "!")
  else if ← peek (word "impl") then
    other do
      takeWord "impl"
      traitBounds rules ⟨true, true⟩ plus "at least one trait must be specified"
  else if ← peek (word "_") then other (takeWord "_")
  else if ← peek lifetimeAhead then other (objectBounds rules true)
  else noneOf typeNames

def boundType (rules : Rules) (plus : Bool) : Parser TypeSyntax := do
  let (_, binder) ← captured (binder rules)
  if ← peek functionTypeAhead then
    let (_, tokens) ← captured (functionType rules)
    return .other (binder ++ tokens)
  else if ← peek (either [identifierAhead, word "super", word "self", word "Self",
      word "crate"]) then
    pathType rules plus binder
  else
    noneOf ["identifier", "`fn`", "`unsafe`", "`extern`", "`super`", "`self`", "`Self`", "`crate`"]

def typeRule (rules : Rules) (plus : Bool) : Parser TypeSyntax := silently do
  if ← peek (word "for") then boundType rules plus else unboundType rules plus

/-!
# Conditions on parameters
-/

def predicateStop : List Token -> Bool :=
  either [List.isEmpty, group .brace, mark ",", mark ";", markBut ":" ["::"], mark "="]

def predicate (rules : Rules) : Parser Unit := do
  if (← peek lifetimeAhead) && (← peekSecond (mark ":")) then
    takeLifetime
    takeMark ":"
    separatedWhile "+"
      (either [List.isEmpty, group .brace, mark ",", mark ";", mark ":", mark "="]) takeLifetime
  else
    let _ ← binder? rules
    printType rules true
    takeMark ":"
    boundList rules predicateStop

/-- Conditions on parameters; without conditions nothing is printed.  Answers whether the
clause stood there. -/
def whereClause (rules : Rules) : Parser Bool := do
  if !(← peek (word "where")) then return false
  let (_, lead) ← captured (takeWord "where")
  let (_, predicates) ← captured (separatedWhile "," predicateStop (predicate rules))
  if !predicates.isEmpty then print (lead ++ predicates)
  return true

end Parser
end PartialUpdate
