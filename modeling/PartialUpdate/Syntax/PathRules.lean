import PartialUpdate.Syntax.Rules

/-!
# Rules of paths, bounds and parameters

Paths are read without being printed.  In an expression an angle bracket begins arguments only
behind a separator, since it may also compare.  A signature of a call may end the path of a
bound, and no other.
-/

namespace PartialUpdate
namespace Parser

/-!
# Parameters
-/

/-- Bounds behind a colon, which is printed only before bounds. -/
def colonBounds (stop : List Token -> Bool) (item : Parser Unit) : Parser Unit := do
  if ← peek (mark ":") then
    let (_, colon) ← captured (takeMark ":")
    let (_, bounds) ← captured (separatedWhile "+" stop item)
    if !bounds.isEmpty then print (colon ++ bounds)

/-- A block, a literal or a name that stands for a constant. -/
def constantArgument (rules : Rules) : Parser Unit := do
  if ← peek literalAhead then literal
  else if ← peek identifierAhead then
    let _ ← identifier
  else if ← peek (group .brace) then block rules
  else noneOf []

def lifetimeParameter : Parser Unit := do
  takeLifetime
  colonBounds (either [List.isEmpty, mark ",", mark ">"]) takeLifetime

def typeParameter (rules : Rules) : Parser Unit := do
  let _ ← identifier
  colonBounds (either [mark ",", mark ">", mark "="]) do
    let _ ← rules.bound ⟨false, true⟩
  if ← takeMark? "=" then printType rules true

def constantParameter (rules : Rules) : Parser Unit := do
  takeWord "const"
  let _ ← identifier
  takeMark ":"
  printType rules true
  if ← takeMark? "=" then constantArgument rules

/-- The parameters that a bound or a type holds for all of. -/
def binder (rules : Rules) : Parser Unit := do
  takeWord "for"
  takeMark "<"
  separatedUntil "," (mark ">") do
    printOuterAttributes rules
    if ← peek identifierAhead then typeParameter rules
    else if ← peek lifetimeAhead then lifetimeParameter
    else if ← peek (word "const") then constantParameter rules
    else noneOf ["identifier", "lifetime", "`const`"]
  takeMark ">"

def binder? (rules : Rules) : Parser Bool := do
  if ← peek (word "for") then
    binder rules
    return true
  else return false

/-- Parameters in angle brackets, lifetimes first; without parameters nothing is printed. -/
def generics (rules : Rules) : Parser Unit := do
  if !(← peek (mark "<")) then return
  let (parameters, _) ← captured do
    takeMark "<"
    let parameters ← collect do
      if ← peek (mark ">") then return none
      let (lifetime, tokens) ← captured (parameter rules)
      if ← peek (mark ">") then return some ⟨lifetime, false, tokens⟩
      takeMark ","
      return some (PrintedArgument.mk lifetime true tokens)
    takeMark ">"
    return parameters
  if !parameters.isEmpty then
    print (Token.operator "<" ++ PrintedArgument.arrange parameters ++ Token.operator ">")
where
  /-- Answers whether the parameter is a lifetime. -/
  parameter (rules : Rules) : Parser Bool := do
    printOuterAttributes rules
    if ← peek lifetimeAhead then
      lifetimeParameter
      return true
    if ← peek identifierAhead then typeParameter rules
    else if ← peek (word "const") then constantParameter rules
    else if ← peek (word "_") then takeWord "_"
    else noneOf ["lifetime", "identifier", "`const`"]
    return false

/-- Whether an angle bracket begins parameters, and not a type in angle brackets. -/
def parametersAhead (tokens : List Token) : Bool :=
  let first := tokens.drop 1
  let second := Tokens.skipOne first
  mark "<" tokens
    && (either [mark ">", mark "#", word "const"] first
      || either [identifierAhead, lifetimeAhead] first
        && either [mark ">", mark ",", markBut ":" ["::"], mark "="] second)

/-!
# Arguments
-/

def withName (type : TypeSyntax) : Bool :=
  match type with
  | .path false [_] => true
  | _ => false

/-- An argument, which still has to learn whether a comma follows. -/
def genericArgument (rules : Rules) : Parser (Bool -> GenericArgument) := do
  if (← peek lifetimeAhead) && !(← peekSecond (mark "+")) then
    let (_, tokens) ← captured takeLifetime
    return .lifetime tokens
  if ← peek (either [literalAhead, group .brace]) then
    let (_, tokens) ← captured (constantArgument rules)
    return .other tokens
  let type ← rules.type true
  if withName type && (← peek (mark "=")) then
    let (_, tokens) ← captured do
      takeMark "="
      if ← peek (either [literalAhead, group .brace]) then constantArgument rules
      else printType rules true
    return .other (type.tokens ++ tokens)
  else if withName type && (← peek (mark ":")) then
    let (_, tokens) ← captured do
      takeMark ":"
      separatedWhile "+" (either [mark ",", mark ">"]) do
        let _ ← rules.bound ⟨false, true⟩
    return .other (type.tokens ++ tokens)
  else return .type type

def genericArguments (rules : Rules) : Parser (List GenericArgument) := do
  takeMark "<"
  let arguments ← collect do
    if ← peek (mark ">") then return none
    let finish ← genericArgument rules
    if ← peek (mark ">") then return some (finish false)
    takeMark ","
    return some (finish true)
  takeMark ">"
  return arguments

/-!
# Paths
-/

def argumentsAhead (bare : Bool) : Parser Bool := do
  if !bare && (← peek (markBut "<" ["<=", "<<="])) then return true
  else return (← peek (mark "::")) && (← peekThird (mark "<"))

def pathStep (rules : Rules) (bare : Bool) : Parser PathStep := do
  if ← peek (either [word "super", word "self", word "crate", word "try"]) then
    return .plain (← anyWord).1
  let (name, _) ← if ← peek (word "Self") then anyWord else identifier
  if ← argumentsAhead bare then
    let turbofish ← takeMark? "::"
    return .angled name turbofish (← genericArguments rules)
  else return .plain name

/-- A path as in types if not `bare`, as in expressions otherwise. -/
def path (rules : Rules) (bare : Bool) : Parser PathSyntax := silently do
  let rooted ← takeMark? "::"
  let first ← pathStep rules bare
  let further ← collect do
    if (← peek (mark "::")) && !(← peekThird (group .parenthesis)) then
      takeMark "::"
      return some (← pathStep rules bare)
    else return none
  return ⟨rooted, first :: further⟩

structure QualifiedPath where
  qualified : Bool
  path : PathSyntax
  tokens : List Token
  deriving Inhabited

def qualifiedSteps (rules : Rules) (bare : Bool) : Parser (List PathStep) :=
  chain do
    let step ← pathStep rules bare
    return (step, ← takeMark? "::")

def qualifiedPath (rules : Rules) (bare : Bool) : Parser QualifiedPath := silently do
  if !(← peek (mark "<")) then
    let path ← path rules bare
    return ⟨false, path, path.tokens⟩
  takeMark "<"
  let self ← rules.type true
  let within ← if ← takeWord? "as" then some <$> path rules false else pure none
  takeMark ">"
  takeMark "::"
  let steps ← qualifiedSteps rules bare
  let lead := Token.operator "<" ++ self.tokens
  let tail := Token.operator ">" ++ Token.operator "::" ++ PathStep.tokensOfAll steps
  match within with
  | some outer =>
      return ⟨true, ⟨outer.rooted, outer.steps ++ steps⟩,
        lead ++ Token.word "as" :: outer.tokens ++ tail⟩
  | none => return ⟨true, ⟨true, steps⟩, lead ++ tail⟩

/-!
# Bounds
-/

def outputType (rules : Rules) (plus : Bool) : Parser Unit := do
  if ← takeMark? "->" then printType rules plus

def callSignature (rules : Rules) : Parser Unit := do
  inside .parenthesis (separated "," (printType rules true))
  outputType rules false

def signatureAhead : Parser Bool := do
  if ← peek (group .parenthesis) then return true
  else return (← peek (mark "::")) && (← peekThird (group .parenthesis))

/-- The path of a trait; a signature takes the place of empty angle brackets behind it. -/
def traitPath (rules : Rules) : Parser Unit := do
  let path ← path rules false
  match path.steps.getLast? with
  | some last =>
      if last.isBare && (← signatureAhead) then
        print { path with steps := path.steps.dropLast ++ [PathStep.plain last.name] }.tokens
        if ← peek (mark "::") then skipMark "::"
        callSignature rules
      else print path.tokens
  | none => print path.tokens

/-- What is captured: lifetimes and names in angle brackets, lifetimes first. -/
def capture : Parser Unit := do
  takeWord "use"
  takeMark "<"
  let parameters ← collect do
    let lifetime ← peek lifetimeAhead
    let (found, tokens) ← captured parameter
    if !found then return none
    if ← peek (mark ">") then return some ⟨lifetime, false, tokens⟩
    if ← peek (mark ",") then skipMark "," else noneOf ["`,`", "`>`"]
    return some (PrintedArgument.mk lifetime true tokens)
  print (PrintedArgument.arrange parameters)
  takeMark ">"
where
  parameter : Parser Bool := do
    if ← peek lifetimeAhead then
      takeLifetime
      return true
    else if ← peek (either [identifierAhead, word "Self"]) then
      let _ ← anyWord
      return true
    else if ← peek (mark ">") then return false
    else noneOf ["lifetime", "identifier", "`>`"]

/-- A trait with its modifiers; answers whether it is marked as constant. -/
def traitBound (rules : Rules) (forms : BoundForms) : Parser Bool := do
  let bound ← binder? rules
  let constant ← constantMark
  let maybe ← takeMark? "?"
  let bound ← if maybe && !bound then binder? rules else pure bound
  traitPath rules
  if bound && maybe then
    throw (.other "`for<...>` binder not allowed with `?` trait polarity modifier")
  return constant
where
  constantMark : Parser Bool := do
    if ← peek (group .bracket) then
      inside .bracket (takeWord "const")
      if !forms.constant then throw (.other "`[const]` is not allowed here")
      return true
    else if ← takeWord? "const" then
      if !forms.constant then throw (.other "`const` is not allowed here")
      return true
    else return false

/-- A lifetime, a capture or a trait, which may stand in parentheses; constant bounds are
printed as they stood.  Answers whether it is a trait. -/
def boundRule (rules : Rules) (forms : BoundForms) : Parser Bool := do
  if ← takeLifetime? then return false
  if ← peek (word "use") then
    capture
    if forms.capture then return false
    else throw (.other "`use<...>` precise capturing syntax is not allowed here")
  let ((constant, printed), source) ← taken do
    captured do
      if ← peek (group .parenthesis) then inside .parenthesis (traitBound rules forms)
      else traitBound rules forms
  print (if constant then source else printed)
  return true

def boundAhead (forms : BoundForms) : List Token -> Bool :=
  either ([Tokens.startAnyWord, mark "::", mark "?", lifetimeAhead, group .parenthesis]
    ++ (if forms.constant then [group .bracket] else []))

/-- Bounds with pluses between them; answers whether a trait is among them. -/
def bounds (rules : Rules) (forms : BoundForms) (plus : Bool) : Parser Bool := do
  let traits ← chain do
    let isTrait ← boundRule rules forms
    if plus && (← takeMark? "+") then return (isTrait, ← peek (boundAhead forms))
    else return (isTrait, false)
  return traits.any id

def boundList (rules : Rules) (stop : List Token -> Bool) : Parser Unit :=
  separatedWhile "+" stop do
    let _ ← boundRule rules ⟨false, true⟩

end Parser
end PartialUpdate
