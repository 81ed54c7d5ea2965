import PartialUpdate.Syntax.Item
import PartialUpdate.Syntax.StatementRules

/-!
# Rules of items

An item that is accepted without being understood is kept as it stood.  The parsers of such
forms answer whether the item was understood.
-/

namespace PartialUpdate
namespace Parser

variable {α : Type}

/-- Answers whether a visibility stood there. -/
def visibility : Parser Bool := do
  if !(← takeWord? "pub") then return false
  match ← tokens with
  | .group .parenthesis content _ :: _ =>
      match content with
      | [.identifier name _] =>
          if !name.raw && ["crate", "self", "super"].contains name.name then anyToken
      | _ =>
          if word "in" content then
            inside .parenthesis do
              takeWord "in"
              print (← plainPath).tokens
  | _ => pure ()
  return true

/-!
# Functions
-/

/-- Whether words that may stand before `fn` lead to it. -/
def functionAhead (safe : Bool) : Parser Bool := lookahead do
  takeWords? ["const", "async"]
  if !(safe && (← takeWord? "safe")) then takeWords? ["unsafe"]
  let _ ← abi?
  peek (word "fn")

/-- Whether the function's own value stands here, and no path that begins with it. -/
def receiverAhead : Parser Bool := lookahead do
  if ← takeMark? "&" then
    let _ ← takeLifetime?
  let _ ← takeWord? "mut"
  return (← peek (word "self")) && !(← peekSecond (mark "::"))

def receiver (rules : Rules) : Parser Unit := do
  let referenced ← takeMark? "&"
  if referenced then
    let _ ← takeLifetime?
  let _ ← takeWord? "mut"
  takeWord "self"
  if !referenced then
    if ← takeMark? ":" then printType rules true

/-- Answers whether other inputs may follow. -/
def typedInput (rules : Rules) : Parser Bool := do
  if (← peek identifierAhead) && (← peekSecond (mark "<")) then
    print (Token.word "_" :: Token.operator ":")
    printType rules true
    return true
  let _ ← rules.pattern
  takeMark ":"
  if ← takeMark? "..." then return false
  printType rules true
  return true

/-- Inputs with commas between them, of which only the first may be the function's own value. -/
def functionInputs (rules : Rules) : Parser Unit := do
  if ← ended then return
  printOuterAttributes rules
  let method ← receiverAhead
  let more ←
    if method then do
      receiver rules
      pure true
    else input rules
  if ← ended then return
  takeMark ","
  if more then
    repeated do
      if ← ended then return false
      printOuterAttributes rules
      if ← receiverAhead then
        receiver rules
        throw (.other (if method then "unexpected second method receiver"
          else "unexpected method receiver"))
      let more ← input rules
      if ← ended then return false
      takeMark ","
      return more
where
  /-- Answers whether other inputs may follow. -/
  input (rules : Rules) : Parser Bool := do
    if ← takeMark? "..." then return false
    else typedInput rules

def signature (rules : Rules) (safe : Bool) : Parser Identifier := do
  takeWords? ["const", "async"]
  if !(safe && (← takeWord? "safe")) then takeWords? ["unsafe"]
  let _ ← abi?
  takeWord "fn"
  let (name, _) ← identifier
  generics rules
  inside .parenthesis (functionInputs rules)
  outputType rules true
  let _ ← whereClause rules
  return name

def functionItem (rules : Rules) : Parser Bool := do
  let _ ← signature rules false
  if ← takeMark? ";" then return false
  block rules
  return true

/-!
# Values and types
-/

def genericsFound (rules : Rules) : Parser Bool := do
  let found ← peek (mark "<")
  generics rules
  return found

def constantName (what : List String) : Parser Identifier := do
  if ← peek nameAhead then return (← anyWord).1 else noneOf what

def constantNames : List String := ["identifier", "`_`"]

/-- A constant, and whether it has the form that is understood.  Where its name is missing,
`what` names what could stand there. -/
def constantRest (rules : Rules) (needsValue : Bool) (what : List String) :
    Parser (Identifier × Bool) := do
  takeWord "const"
  let name ← constantName what
  let generic ← genericsFound rules
  takeMark ":"
  printType rules true
  let defined ← takeMark? "="
  if defined then
    let _ ← rules.expression true
  let conditional ← whereClause rules
  takeMark ";"
  return (name, (defined || !needsValue) && !generic && !conditional)

def staticItem (rules : Rules) : Parser Bool := do
  takeWord "static"
  let _ ← takeWord? "mut"
  let _ ← identifier
  if ← takeMark? "=" then
    let _ ← rules.expression true
    takeMark ";"
    return false
  takeMark ":"
  printType rules true
  if ← takeMark? ";" then return false
  takeMark "="
  let _ ← rules.expression true
  takeMark ";"
  return true

structure TypeDeclaration where
  bounded : Bool
  defined : Bool

def typeStop : List Token -> Bool :=
  either [word "where", mark "=", mark ";"]

inductive ConditionsPlace
  | beforeDefinition
  | afterDefinition
  | either
  deriving DecidableEq

/-- The name of a type, its parameters and bounds, and what it stands for; bounds are printed
only if there are any. -/
def typeDeclaration (rules : Rules) (place : ConditionsPlace) : Parser TypeDeclaration := do
  takeWord "type"
  let _ ← identifier
  generics rules
  let bounded ← peek (mark ":")
  if bounded then
    let (_, colon) ← captured (takeMark ":")
    let (_, tokens) ← captured do
      separatedUntil "+" typeStop do
        let _ ← boundRule rules ⟨false, true⟩
    if !tokens.isEmpty then print (colon ++ tokens)
  let conditional ← if place = .afterDefinition then pure false else whereClause rules
  let defined ← takeMark? "="
  if defined then printType rules true
  if place != .beforeDefinition && !conditional then
    let _ ← whereClause rules
  takeMark ";"
  return ⟨bounded, defined⟩

def typeItem (rules : Rules) : Parser Bool := do
  let declaration ← typeDeclaration rules .beforeDefinition
  return declaration.defined && !declaration.bounded

/-!
# Imports
-/

def renamed : Parser Unit := do
  if ← takeWord? "as" then
    if ← peek (either [identifierAhead, word "_"]) then
      let _ ← anyWord
    else fail "expected identifier or underscore"

def useWordAhead : List Token -> Bool :=
  either [identifierAhead, word "self", word "super", word "crate", word "try"]

def useGroup (rules : Rules) (root : Bool) : Parser Bool := do
  let whole ← inside .brace do
    collect do
      if ← ended then return none
      let rooted ← if root then takeMark? "::" else pure false
      let whole ← rules.useTree (root && !rooted)
      if !(← ended) then takeMark ","
      return some (whole && !rooted)
  return whole.all id

def useTreeRule (rules : Rules) (root : Bool) : Parser Bool := do
  if ← peek useWordAhead then
    let _ ← anyWord
    if ← takeMark? "::" then rules.useTree false
    else
      renamed
      return true
  else if ← takeMark? "*" then return true
  else if ← peek (group .brace) then useGroup rules root
  else noneOf ["identifier", "`self`", "`super`", "`crate`", "`try`", "`*`", "curly braces"]

def useItem (rules : Rules) : Parser Bool := do
  takeWord "use"
  let rooted ← takeMark? "::"
  let whole ← useTreeRule rules (!rooted)
  takeMark ";"
  return whole

def externCrate : Parser Unit := do
  takeWord "extern"
  takeWord "crate"
  if ← peek (word "self") then takeWord "self" else let _ ← identifier
  if ← takeWord? "as" then
    if ← peek (word "_") then takeWord "_" else let _ ← identifier
  takeMark ";"

/-!
# Calls of macros
-/

def macroItemAhead : List Token -> Bool :=
  either [identifierAhead, word "self", word "super", word "crate", mark "::"]

def macroItemNames : List String :=
  ["identifier", "`self`", "`super`", "`crate`", "`::`"]

/-- None of some words stands here, nor a call of a macro where one may stand.  A word that
stands here, but not as the beginning of what was looked for, is not named. -/
def noneOfWords (words : List String) (callable : Bool) : Parser α := do
  let here ← tokens
  let missing := words.filter (fun text => !word text here)
  noneOf (missing.map (fun text => "`" ++ text ++ "`") ++ (if callable then macroItemNames else []))

/-- A semicolon follows all groups but those in braces. -/
def macroEnd : Parser Unit := do
  let (delimiter, _) ← anyGroup
  if delimiter != .brace then takeMark ";"

def macroItem (named : Bool) : Parser Unit := do
  print (← plainPath).tokens
  takeMark "!"
  if named && (← peek (either [identifierAhead, word "try"])) then
    let _ ← anyWord
  macroEnd

def macroDefinition : Parser Unit := do
  takeWord "macro"
  let _ ← identifier
  let parameters ← peek (group .parenthesis)
  if parameters then
    let _ ← anyGroup
  if ← peek (group .brace) then
    let _ ← anyGroup
  else noneOf (if parameters then ["curly braces"] else ["parentheses", "curly braces"])

/-!
# Functions of other languages
-/

def foreignItem (rules : Rules) : Parser Unit := do
  let ((understood, printed), source) ← taken do
    captured do
      printOuterAttributes rules
      let isPublic ← visibility
      if ← functionAhead true then
        let safe ← lookahead do
          takeWords? ["const", "async"]
          takeWord? "safe"
        let _ ← signature rules true
        if ← peek (group .brace) then
          block rules
          return false
        takeMark ";"
        return !safe
      else if ← peek (word "static") then staticRest
      else if (← peek (either [word "unsafe", word "safe"])) && (← peekSecond (word "static")) then
        let _ ← anyWord
        let _ ← staticRest
        return false
      else if ← peek (word "type") then
        let declaration ← typeDeclaration rules .either
        return !declaration.bounded && !declaration.defined
      else if !isPublic && (← peek macroItemAhead) then
        macroItem false
        return true
      else noneOfWords ["fn", "static", "type"] (!isPublic)
  print (if understood then printed else source)
where
  staticRest : Parser Bool := do
    takeWord "static"
    let _ ← takeWord? "mut"
    let _ ← identifier
    takeMark ":"
    printType rules true
    let defined ← takeMark? "="
    if defined then
      let _ ← rules.expression true
    takeMark ";"
    return !defined

def foreignModule (rules : Rules) : Parser Unit := do
  let _ ← takeWord? "unsafe"
  takeWord "extern"
  if ← peek Tokens.startString then
    let _ ← takeString
  inside .brace do
    printInnerAttributes rules
    repeated do
      if ← ended then return false
      foreignItem rules
      return true

/-!
# Traits
-/

def traitMember (rules : Rules) : Parser Unit := do
  let ((understood, printed), source) ← taken do
    captured do
      printOuterAttributes rules
      let isPublic ← visibility
      let default ← takeWord? "default"
      let plain := !isPublic && !default
      if ← functionAhead false then
        let _ ← signature rules false
        if ← peek (group .brace) then block rules
        else if ← peek (mark ";") then takeMark ";"
        else noneOf ["curly braces", "`;`"]
        return plain
      else if ← peek (word "const") then
        if ← peekSecond (either [word "async", word "unsafe", word "extern"]) then
          let _ ← signature rules false
        let (_, understood) ← constantRest rules false
          (constantNames ++ ["`async`", "`unsafe`", "`extern`", "`fn`"])
        return understood && plain
      else if ← peek (word "type") then
        let _ ← typeDeclaration rules .afterDefinition
        return plain
      else if plain && (← peek macroItemAhead) then
        macroItem false
        return true
      else noneOfWords ["fn", "const", "type"] plain
  print (if understood then printed else source)

def traitStop : List Token -> Bool :=
  either [word "where", group .brace]

def traitRest (rules : Rules) : Parser Unit := do
  if ← peek (mark ":") then
    let (_, colon) ← captured (takeMark ":")
    let (_, tokens) ← captured do
      separatedUntil "+" traitStop do
        let _ ← boundRule rules ⟨false, true⟩
    if !tokens.isEmpty then print (colon ++ tokens)
  let _ ← whereClause rules
  inside .brace do
    printInnerAttributes rules
    repeated do
      if ← ended then return false
      traitMember rules
      return true

def traitAliasRest (rules : Rules) : Parser Unit := do
  takeMark "="
  separatedUntil "+" (either [word "where", mark ";"]) do
    let _ ← boundRule rules ⟨false, false⟩
  let _ ← whereClause rules
  takeMark ";"

def traitItem (rules : Rules) : Parser Unit := do
  let isUnsafe ← takeWord? "unsafe"
  let automatic ← takeWord? "auto"
  takeWord "trait"
  let _ ← identifier
  generics rules
  if isUnsafe || automatic || (← peek (either [group .brace, mark ":", word "where"])) then
    traitRest rules
  else if ← peek (mark "=") then traitAliasRest rules
  else noneOf ["curly braces", "`:`", "`where`", "`=`"]

/-!
# Functions of types
-/

/-- Answers the function or constant, if it is one. -/
def implMember (rules : Rules) : Parser (Option ImplMember) := do
  let (((understood, name), printed), source) ← taken do
    captured do
      printOuterAttributes rules
      let isPublic ← visibility
      let default ←
        if (← peek (word "default")) && !(← peekSecond (mark "!")) then takeWord? "default"
        else pure false
      if ← functionAhead false then
        let name ← signature rules false
        if ← takeMark? ";" then return (false, some name)
        block rules
        return (true, some name)
      else if ← peek (word "const") then
        let (name, understood) ← constantRest rules true constantNames
        return (understood, some name)
      else if ← peek (word "type") then
        let declaration ← typeDeclaration rules .afterDefinition
        return (declaration.defined && !declaration.bounded, none)
      else if !isPublic && !default && (← peek macroItemAhead) then
        macroItem false
        return (true, none)
      else
        noneOfWords ((if default then [] else ["default"]) ++ ["fn", "const", "type"])
          (!isPublic && !default)
  print (if understood then printed else source)
  return name.map (fun name => ⟨name, understood⟩)

def implRest (rules : Rules) : Parser (Option (Bool × TypeSyntax × List ImplMember)) := do
  takeWords? ["default", "unsafe"]
  takeWord "impl"
  if ← peek parametersAhead then generics rules
  let constant ←
    if (← peek (mark "?")) && (← peekSecond (word "const")) then do
      takeMark "?"
      takeWord? "const"
    else takeWord? "const"
  let negative ←
    if (← peek (mark "!")) && !(← peekSecond (group .brace)) then takeMark? "!" else pure false
  let first ← rules.type true
  print first.tokens
  let ofTrait ← takeWord? "for"
  let selfType ← if ofTrait then rules.type true else pure first
  if ofTrait then print selfType.tokens
  else if negative then throw (.other "inherent impls cannot be negative")
  let _ ← whereClause rules
  let members ← inside .brace do
    printInnerAttributes rules
    collect do
      if ← ended then return none
      return some (← implMember rules)
  let understood := !constant && (!ofTrait || first matches .path ..)
  return if understood then some (ofTrait, selfType, members.filterMap id) else none

/-!
# Structures
-/

def recordTypeAhead : Parser Bool := do
  if ← peek (word "struct") then return true
  else return (← peek (word "union")) && (← peekSecond (group .brace))

/-- A field, in which types may be written out that hold fields of their own; those are read
by `fields`. -/
def fieldSyntax (rules : Rules) (named : Bool) (fields : Parser Unit) : Parser FieldSyntax := do
  let attributes ← outerAttributes rules
  let (_, visibility) ← captured visibility
  if !named then
    return ⟨attributes, visibility, none, ← rules.type true, false⟩
  let nameless ← peek (word "_")
  let (name, _) ← captured (if nameless then anyWord else identifier)
  takeMark ":"
  let type ←
    if nameless && (← recordTypeAhead) then
      let (_, source) ← taken do
        let _ ← anyWord
        fields
      pure (TypeSyntax.other source)
    else rules.type true
  return ⟨attributes, visibility, some name, type, false⟩

def fieldsWith (rules : Rules) (named : Bool) (fields : Parser Unit) :
    Parser (List FieldSyntax) :=
  inside (if named then .brace else .parenthesis) do
    collect do
      if ← ended then return none
      let field ← fieldSyntax rules named fields
      if ← ended then return some field
      takeMark ","
      return some { field with comma := true }

/-- Named fields inside of a type that is written out, `depth` levels deep at most. -/
def innerFields (rules : Rules) (depth : Nat) : Parser Unit :=
  Nat.repeat
    (fun fields => do
      let _ ← fieldsWith rules true fields)
    depth (fail "too deep")

def fieldList (rules : Rules) (named : Bool) : Parser (List FieldSyntax) := do
  fieldsWith rules named (innerFields rules (Tokens.sizeAll (← tokens)))

def structBody (rules : Rules) : Parser (List Token × FieldsSyntax) := do
  let (before, conditions) ← captured (whereClause rules)
  if !before && (← peek (group .parenthesis)) then
    let fields ← fieldList rules false
    let (after, conditions) ← captured (whereClause rules)
    if ← peek (mark ";") then
      takeMark ";"
      return (conditions, .unnamed fields)
    else noneOf (if after then ["`;`"] else ["`where`", "`;`"])
  else if ← peek (group .brace) then return (conditions, .named (← fieldList rules true))
  else if ← peek (mark ";") then
    takeMark ";"
    return (conditions, .unit)
  else
    noneOf (if before then ["curly braces", "`;`"]
      else ["`where`", "parentheses", "curly braces", "`;`"])

def structItem (rules : Rules) (attributes : List Attribute) (visibility : List Token) :
    Parser StructSyntax := do
  takeWord "struct"
  let (name, span) ← identifier
  let (_, generics) ← captured (generics rules)
  let (conditions, fields) ← structBody rules
  return ⟨attributes, visibility, name, span, generics, conditions, fields⟩

/-!
# Enumerations and unions
-/

def printFields (rules : Rules) (named : Bool) : Parser Unit := do
  let (fields, _) ← captured (fieldList rules named)
  let content := fields.flatMap FieldSyntax.tokens
  print [if named then Token.braced content else Token.parenthesized content]

/-- The visibility of a variant is not printed. -/
def variant (rules : Rules) : Parser Unit := do
  printOuterAttributes rules
  let _ ← silently visibility
  let _ ← identifier
  if ← peek (group .brace) then printFields rules true
  else if ← peek (group .parenthesis) then printFields rules false
  if ← takeMark? "=" then
    let _ ← rules.expression true

def enumItem (rules : Rules) : Parser (Identifier × Span) := do
  takeWord "enum"
  let name ← identifier
  generics rules
  let _ ← whereClause rules
  inside .brace (separated "," (variant rules))
  return name

def unionItem (rules : Rules) : Parser Unit := do
  takeWord "union"
  let _ ← identifier
  generics rules
  let _ ← whereClause rules
  printFields rules true

/-!
# Modules
-/

def moduleWith (rules : Rules) (items : Parser α) :
    Parser (Option (List Token × α)) := do
  let _ ← takeWord? "unsafe"
  takeWord "mod"
  if ← peek (word "try") then
    let _ ← anyWord
  else
    let _ ← identifier
  if ← peek (mark ";") then
    skipMark ";"
    return none
  else if ← peek (group .brace) then
    let (body, _) ← captured do
      inside .brace do
        let (_, attributes) ← captured (printInnerAttributes rules)
        return (attributes, ← items)
    return some body
  else noneOf ["`;`", "curly braces"]

def itemsOf (item : Parser Item) : Parser (List Item) :=
  collect do
    if ← ended then return none
    return some (← silently item)

def moduleItem (rules : Rules) : Parser Unit := do
  let body ← moduleWith rules do
    let (_, printed) ← captured do
      repeated do
        if ← ended then return false
        rules.item
        return true
    return printed
  match body with
  | none => print [Token.semicolon]
  | some (attributes, items) => print [Token.braced (attributes ++ items)]

/-!
# All items
-/

def itemWords : List String :=
  ["fn", "extern", "use", "static", "const", "unsafe", "mod", "type", "struct", "enum", "union",
    "trait", "auto", "impl", "default", "macro"]

/-- A block of foreign items is not understood behind a visibility. -/
def foreignModuleItem (rules : Rules) (isPublic : Bool) : Parser Unit := do
  if isPublic then expected ["`extern`"] else foreignModule rules

def externItem (rules : Rules) (isPublic : Bool) : Parser Unit := do
  if ← peekSecond (word "crate") then externCrate
  else if ← peekSecond (either [group .brace, Tokens.startString]) then
    if ← peekSecond Tokens.startString then
      if !(← peekThird (group .brace)) then
        drop 2
        noneOf ["curly braces"]
    foreignModuleItem rules isPublic
  else
    drop 1
    noneOf ["`crate`", "curly braces", "string literal"]

def unsafeItem (rules : Rules) (isPublic : Bool) : Parser Unit := do
  if ← peekSecond (word "trait") then traitItem rules
  else if (← peekSecond (word "auto")) && (← peekThird (word "trait")) then traitItem rules
  else if ← peekSecond (word "extern") then foreignModuleItem rules isPublic
  else if ← peekSecond (word "mod") then moduleItem rules
  else
    drop 1
    noneOfWords ["trait", "auto", "impl", "extern", "mod"] false

/-- Items that stay tokens, behind their attributes and visibility. -/
def plainItem (rules : Rules) (isPublic : Bool) : Parser Bool := do
  let understood (parser : Parser Unit) : Parser Bool := do
    parser
    return true
  if ← functionAhead false then functionItem rules
  else if ← peek (word "extern") then understood (externItem rules isPublic)
  else if ← peek (word "use") then useItem rules
  else if ← peek (word "static") then staticItem rules
  else if ← peek (word "const") then return (← constantRest rules true constantNames).2
  else if ← peek (word "unsafe") then understood (unsafeItem rules isPublic)
  else if ← peek (word "mod") then understood (moduleItem rules)
  else if ← peek (word "type") then typeItem rules
  else if (← peek (word "union")) && (← peekSecond identifierAhead) then understood (unionItem rules)
  else if ← peek (word "trait") then understood (traitItem rules)
  else if (← peek (word "auto")) && (← peekSecond (word "trait")) then understood (traitItem rules)
  else if ← peek (word "macro") then
    macroDefinition
    return false
  else if !isPublic && (← peek macroItemAhead) then understood (macroItem true)
  else noneOfWords itemWords (!isPublic)

def implAhead : Parser Bool := do
  if ← peek (word "impl") then return true
  if ← peek (word "unsafe") then return ← peekSecond (word "impl")
  if ← peek (word "default") then return !(← peekSecond (mark "!"))
  return false

/-- An item, or nothing if it is kept as it stood. -/
def itemContent (rules : Rules) : Parser (Option Item) := do
  let attributes ← outerAttributes rules
  let (isPublic, visibility) ← captured visibility
  let lead := attributes.flatMap Attribute.tokens ++ visibility
  if ← peek (word "struct") then
    return some (.struct (← structItem rules attributes visibility))
  else if ← peek (word "enum") then
    let ((name, span), tokens) ← captured (enumItem rules)
    return some (.enumeration ⟨name, span, lead ++ tokens⟩)
  else if ← implAhead then
    match ← captured (implRest rules) with
    | (some (ofTrait, selfType, members), tokens) =>
        if isPublic then return none
        else return some (.implementation ⟨ofTrait, selfType, members, lead ++ tokens⟩)
    | (none, _) => return none
  else
    let (understood, tokens) ← captured (plainItem rules isPublic)
    return if understood then some (.other (lead ++ tokens)) else none

def itemSyntax (rules : Rules) : Parser Item := silently do
  let (item, source) ← taken (itemContent rules)
  return item.getD (.other source)

def itemRule (rules : Rules) : Parser Unit := do
  print (← itemSyntax rules).tokens

def file (rules : Rules) : Parser (List Token × List Item) := do
  let (_, attributes) ← captured (printInnerAttributes rules)
  return (attributes, ← itemsOf (itemSyntax rules))

def moduleSyntax (rules : Rules) : Parser ModuleSyntax := do
  let (body, lead) ← captured do
    printOuterAttributes rules
    let _ ← visibility
    moduleWith rules (itemsOf (itemSyntax rules))
  return ⟨lead, body⟩

end Parser
end PartialUpdate
