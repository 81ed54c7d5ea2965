import PartialUpdate.Syntax.TypeRules

/-!
# Rules of patterns
-/

namespace PartialUpdate
namespace Parser

def barAhead : List Token -> Bool := markBut "|" ["||", "|="]

/-- A pattern with alternatives; answers its kind if there are none. -/
def alternatives (rules : Rules) (leading : Bool) : Parser PatternKind := do
  let kinds ← chain do
    let kind ← rules.pattern
    if ← peek barAhead then
      takeMark "|"
      return (kind, true)
    else return (kind, false)
  match kinds with
  | [kind] => return if leading then .other else kind
  | _ => return .other

def fullPattern (rules : Rules) : Parser PatternKind := do
  alternatives rules (← takeMark? "|")

/-!
# Ranges
-/

/-- The mark of a range; answers whether the range is closed.  Three points are an obsolete
spelling of a closed range. -/
def rangeMark (obsolete : Bool) : Parser Bool := do
  if ← peek (mark "..=") then
    takeMark "..="
    return true
  else if ← peek (mark "...") then
    if obsolete then
      skipMark "..."
      print (Token.operator "..=")
    else noneOf ["`..=`"]
    return true
  else
    takeMark ".."
    return false

def rangeEndStop : List Token -> Bool :=
  either [List.isEmpty, mark "|", mark "=", markBut ":" ["::"], mark ",", mark ";", word "if"]

/-- An end of a range; answers whether it stood there. -/
def rangeBound (rules : Rules) : Parser Bool := do
  if ← peek rangeEndStop then return false
  if ← peek literalAhead then
    literal
  else if ← peek pathTypeAhead then print (← qualifiedPath rules true).tokens
  else if ← peek (word "const") then
    takeWord "const"
    block rules
  else
    noneOf ["literal", "identifier", "`::`", "`<`", "`self`", "`Self`", "`super`", "`crate`",
      "`const`"]
  return true

/-- The end behind the mark of a range; a closed range must have one. -/
def rangeEnd (rules : Rules) (obsolete : Bool) : Parser Bool := do
  let closed ← rangeMark obsolete
  let found ← rangeBound rules
  if closed && !found then fail "expected range upper bound"
  return found

/-!
# Parts of records and tuples
-/

/-- The name or number of a field; answers whether it is a name. -/
def member : Parser Bool := do
  match ← tokens with
  | .literal .integer text span :: _ => do
      let number ← Tokens.memberNumber false text
      drop 1
      print [.literal .integer number span]
      return false
  | .punctuation '-' _ _ :: .literal .integer text _ :: _ => do
      let number ← Tokens.memberNumber true text
      drop 2
      print [.literal .integer number Span.unplaced]
      return false
  | _ => do
      if ← peek identifierAhead then
        let _ ← identifier
        return true
      else fail "expected identifier or integer"

def fieldPattern (rules : Rules) : Parser Unit := do
  let boxed ← takeWord? "box"
  let byReference ← takeWord? "ref"
  let mutable ← takeWord? "mut"
  let marked := boxed || byReference || mutable
  let named ← if marked then do
      let _ ← identifier
      pure true
    else member
  if (!marked && (← peek (mark ":"))) || !named then
    takeMark ":"
    let _ ← fullPattern rules

def fieldPatterns (rules : Rules) : Parser Unit :=
  inside .brace do
    repeated do
      if ← ended then return false
      printOuterAttributes rules
      if ← takeMark? ".." then return false
      fieldPattern rules
      if ← ended then return false
      takeMark ","
      return true

def patternList (rules : Rules) : Parser Unit :=
  separated "," do
    let _ ← fullPattern rules

/-!
# Single patterns
-/

def pathPattern (rules : Rules) : Parser PatternKind := do
  let start ← qualifiedPath rules true
  print start.tokens
  if !start.qualified && (← macroAhead start.path) then
    let _ ← macroRest
    return .other
  if ← peek (group .brace) then
    fieldPatterns rules
    return .other
  if ← peek (group .parenthesis) then
    inside .parenthesis (patternList rules)
    return .other
  if ← peek (mark "..") then
    return if ← rangeEnd rules true then .range else .openRange
  return .other

def namePattern (rules : Rules) : Parser Unit := do
  let _ ← takeWord? "ref"
  let _ ← takeWord? "mut"
  if ← peek (word "self") then takeWord "self" else let _ ← identifier
  if ← takeMark? "@" then let _ ← rules.pattern

def literalPattern (rules : Rules) : Parser PatternKind := do
  let _ ← rangeBound rules
  if ← peek (mark "..") then
    return if ← rangeEnd rules true then .range else .openRange
  return .other

def slicePattern (rules : Rules) : Parser Unit :=
  inside .bracket do
    separated "," do
      if (← fullPattern rules) = .openRange then
        throw (.other "range pattern is not allowed unparenthesized inside slice pattern")

def pathPatternAhead : Parser Bool := do
  if ← peek identifierAhead then
    if ← peekSecond (either [mark "::", mark "!", group .brace, group .parenthesis, mark ".."]) then
      return true
  if (← peek (word "self")) && (← peekSecond (mark "::")) then return true
  peek (either [mark "::", mark "<", word "Self", word "super", word "crate"])

/-- How a pattern may begin; a range may not begin with an obsolete mark. -/
def patternNames (obsolete : Bool) : List String :=
  ["identifier", "`::`", "`<`", "`_`", "literal", "`const`", "`ref`", "`mut`", "`&`", "parentheses",
    "square brackets"] ++ (if obsolete then [] else ["`..`"]) ++ ["`const`"]

def boxPattern (rules : Rules) : Parser Unit := do
  let (_, source) ← taken do
    takeWord "box"
    rules.pattern
  print source

def patternRule (rules : Rules) : Parser PatternKind := do
  let other (parser : Parser Unit) : Parser PatternKind := do
    parser
    return .other
  if ← pathPatternAhead then pathPattern rules
  else if ← peek (word "_") then other (takeWord "_")
  else if ← peek (word "box") then
    boxPattern rules
    return .verbatim
  else if ← peek (either [mark "-", literalAhead, word "const"]) then literalPattern rules
  else if ← peek (either [word "ref", word "mut", word "self", identifierAhead]) then
    other (namePattern rules)
  else if ← peek (mark "&") then
    takeMark "&"
    let _ ← takeWord? "mut"
    let _ ← rules.pattern
    return .other
  else if ← peek (group .parenthesis) then
    inside .parenthesis (patternList rules)
    return .other
  else if ← peek (group .bracket) then other (slicePattern rules)
  else if ← peek (markBut ".." ["..."]) then
    return if ← rangeEnd rules false then .openRange else .other
  else noneOf (patternNames (← peek (mark "...")))

end Parser
end PartialUpdate
