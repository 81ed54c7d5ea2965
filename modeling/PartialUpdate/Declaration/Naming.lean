import PartialUpdate.Declaration.Argument
import PartialUpdate.Text.Words

/-!
# Names in stored documents

A field is stored under a name of its own, or under its declared name changed by the rule of
its type.  Of the attributes that say so all keys are read that bear on storing; others are
passed over.
-/

namespace PartialUpdate

inductive RenameRule
  | lowercase
  | uppercase
  | pascal
  | camel
  | screamingSnake
  | kebab
  | screamingKebab
  deriving DecidableEq, Inhabited

namespace RenameRule

def named : List (String × RenameRule) := [
  ("lowercase", .lowercase), ("UPPERCASE", .uppercase), ("PascalCase", .pascal),
  ("camelCase", .camel), ("SCREAMING_SNAKE_CASE", .screamingSnake), ("kebab-case", .kebab),
  ("SCREAMING-KEBAB-CASE", .screamingKebab)]

def hyphenated (name : List Char) : List Char :=
  name.map (fun c => if c = '_' then '-' else c)

def apply (rule : RenameRule) (name : List Char) : List Char :=
  match rule with
  | .lowercase => CaseMap.lowerText name
  | .uppercase | .screamingSnake => CaseMap.upperText name
  | .pascal => Words.pascalCase name
  | .camel => Words.camelCase name
  | .kebab => hyphenated name
  | .screamingKebab => CaseMap.upperText (hyphenated name)

end RenameRule

structure Naming where
  renameAll : Option String := none
  rename : Option String := none
  skip : Bool := false
  deriving DecidableEq, Inhabited

namespace Naming

/-- The name by the rule; a rule that is not known changes nothing. -/
def renamed (rule name : String) : String :=
  match RenameRule.named.lookup rule with
  | some rule => String.ofList (rule.apply name.toList)
  | none => name

def storedName (field container : Naming) (name : String) : String :=
  match field.rename, container.renameAll with
  | some stored, _ => stored
  | none, some rule => renamed rule name
  | none, none => name

end Naming

/-!
# Reading
-/

inductive NamingClause
  | renameAll (rule : Option String)
  | rename (name : Option String)
  | skip
  | unrelated
  deriving DecidableEq, Inhabited

namespace Naming

def add (naming : Naming) : NamingClause -> Naming
  | .renameAll (some rule) => { naming with renameAll := some rule }
  | .rename (some name) => { naming with rename := some name }
  | .skip => { naming with skip := true }
  | .renameAll none | .rename none | .unrelated => naming

end Naming

namespace Parser

variable {α : Type}

def commaChain (item : Parser α) : Parser (List α) :=
  chain do
    let value ← item
    if ← ended then return (value, false)
    takeMark ","
    return (value, !(← ended))

def nestedPath : Parser PathSyntax := silently do
  let rooted ← takeMark? "::"
  if !(← peek Tokens.startAnyWord) then
    if ← ended then fail "expected nested attribute"
    else if ← peek literalAhead then
      fail "unexpected literal in nested attribute, expected ident"
    else fail "unexpected token in nested attribute, expected ident"
  let steps ← chain do
    let (name, _) ← anyWord
    return (PathStep.plain name, ← takeMark? "::")
  return ⟨rooted, steps⟩

def stringValue : Parser String := do
  return Literal.stringValue (← takeString)

/-- A name for one direction, if it is the one in which values are stored. -/
def directedName : Parser (Option String) := do
  let path ← nestedPath
  takeMark "="
  let name ← stringValue
  return if path.isWord "serialize" then some name else none

/-- A name, or names for both directions; the last one for storing counts. -/
def givenName : Parser (Option String) := do
  if ← takeMark? "=" then return some (← stringValue)
  else
    let names ← inside .parenthesis (commaChain directedName)
    return names.reverse.findSome? id

def namingClause (rules : Rules) : Parser NamingClause := silently do
  let path ← nestedPath
  if path.isWord "rename_all" then return .renameAll (← givenName)
  else if path.isWord "rename" then return .rename (← givenName)
  else if path.isWord "skip" || path.isWord "skip_serializing" then return .skip
  else
    if ← takeMark? "=" then
      let _ ← rules.expression true
    else if ← peek (group .parenthesis) then
      let _ ← anyGroup
    return .unrelated

def namingClauses (rules : Rules) : Parser (List NamingClause) := do
  if ← ended then return [] else commaChain (namingClause rules)

end Parser

namespace Naming

def attributeName : String := "serde"

def clauses (content : AttributeContent) : Except SyntaxError (List NamingClause) :=
  match content with
  | .word =>
      .error (.other
        ("expected attribute arguments in parentheses: #[" ++ attributeName ++ "(...)]"))
  | .value _ => .error (.other ("expected parentheses: #[" ++ attributeName ++ "(...)]"))
  | .list _ tokens => Syntax.parseTokens Parser.namingClauses (Token.unplacedAll tokens)

def clausesOfAll (attributes : List Attribute) : List (Except SyntaxError (List NamingClause)) :=
  (attributes.filter (fun written => written.isNamed attributeName)).map
    (fun written => clauses written.item.content)

def errors (attributes : List Attribute) : List DeclarationError :=
  (clausesOfAll attributes).filterMap (fun result =>
    (failure? result).map (fun error => DeclarationError.of (.malformed error)))

/-- What the well-formed attributes say; what is said later counts. -/
def collected (attributes : List Attribute) : Naming :=
  ((clausesOfAll attributes).flatMap (fun result => result.toOption.getD [])).foldl add {}

def ofAttributes (attributes : List Attribute) : Except DeclarationError Naming :=
  DeclarationError.check (errors attributes) (collected attributes)

end Naming
end PartialUpdate
