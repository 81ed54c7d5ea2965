import PartialUpdate.Emission.Code

/-!
# The tokens of generated code
-/

namespace PartialUpdate

open Token (word operator ofIdentifier stringLiteral parenthesized bracketed braced)

namespace Code

def dot : List Token := operator "."

def separator : List Token := operator "::"

def rooted (names : List String) : List Token :=
  names.flatMap (fun name => separator ++ [word name])

def emptyCall (name : String) : List Token :=
  dot ++ [word name, parenthesized []]

def sourceField (field : Identifier) : List Token :=
  word "source" :: dot ++ [ofIdentifier field]

def isEmptyCall : List Token := emptyCall "is_empty"

def marker (name : String) (rest : List Token) : List Token :=
  operator "#" ++ [bracketed (word name :: rest)]

def documentation (text : String) : List Token :=
  marker "doc" (operator "=" ++ [stringLiteral text])

/-- Values that a method does not use are no reason for a warning. -/
def allowUnused : List Token :=
  marker "allow" [parenthesized [word "unused_mut", Token.comma, word "unused_variables"]]

end Code

open Code

namespace Guard

def tokens : Guard -> List Token
  | .present field =>
      word "let" :: rooted ["core", "option", "Option", "Some"] ++ parenthesized [word "current"]
        :: operator "=" ++ operator "&" ++ sourceField field
  | .currentFilled => operator "!" ++ word "current" :: isEmptyCall
  | .filled field => operator "!" ++ sourceField field ++ isEmptyCall
  | .absentOrFilled field =>
      operator "!" ++ sourceField field ++ emptyCall "as_ref" ++ dot
        ++ [word "is_some_and",
          parenthesized
            (operator "|" ++ word "current" :: operator "|" ++ word "current" :: isEmptyCall)]

def around (guard : Guard) (inner : List Token) : List Token :=
  word "if" :: guard.tokens ++ [braced inner]

end Guard

namespace Operand

def tokens : Operand -> List Token
  | .whole => [word "source"]
  | .current => [word "current"]
  | .field name => operator "&" ++ sourceField name
  | .expression tokens => operator "&" ++ [parenthesized tokens]
  | .elements tokens => [parenthesized tokens]

end Operand

namespace GeneratedCall

def argument (call : GeneratedCall) : List Token :=
  if call.form = .pullOne then
    rooted ["core", "iter", "once"] ++ [parenthesized call.operand.tokens]
  else call.operand.tokens

def bare (call : GeneratedCall) : List Token :=
  word "update" :: operator "=" ++ word "update" :: dot
    ++ word call.form.name
    :: parenthesized (stringLiteral call.path :: Token.comma :: call.argument)
    :: operator "?" ++ [Token.semicolon]

def tokens (call : GeneratedCall) : List Token :=
  call.guards.foldr Guard.around call.bare

end GeneratedCall

namespace GeneratedMethod

def signature (runtime : List Token) (method : GeneratedMethod) : List Token :=
  let input :=
    match method.source with
    | some source => word "source" :: operator ":" ++ operator "&" ++ [ofIdentifier source]
    | none => operator "&" ++ [word "self"]
  [word "fn", ofIdentifier method.name, parenthesized input] ++ operator "->"
    ++ runtime ++ separator ++ word "UpdateResult" :: operator "<"
    ++ runtime ++ separator ++ word "UpdateDefinition" :: operator "<"
    ++ ofIdentifier method.target :: operator ">>"

def body (runtime : List Token) (method : GeneratedMethod) : List Token :=
  [word "let", word "mut", word "update"] ++ operator "="
    ++ runtime ++ separator ++ word "UpdateDefinition" :: separator ++ operator "<"
    ++ ofIdentifier method.target :: operator ">" ++ separator
    ++ [word "new", parenthesized [], Token.semicolon]
    ++ method.calls.flatMap GeneratedCall.tokens
    ++ rooted ["core", "result", "Result", "Ok"] ++ [parenthesized [word "update"]]

def documentation (method : GeneratedMethod) : List Token :=
  Code.documentation
    ("Build the `" ++ method.declared.methodName ++ "` update of [`" ++ method.declared.targetType
      ++ "`] from [`" ++ method.declared.sourceType ++ "`].")

def declaration (runtime : List Token) (method : GeneratedMethod) : List Token :=
  method.documentation ++ method.signature runtime ++ [Token.semicolon]

def definition (runtime : List Token) (method : GeneratedMethod) : List Token :=
  allowUnused ++ method.signature runtime
    ++ [braced
      ([word "let", word "source"] ++ operator "=" ++ [word "self", Token.semicolon]
        ++ method.body runtime)]

def function (runtime : List Token) (method : GeneratedMethod) : List Token :=
  [word "impl", ofIdentifier method.target,
    braced (method.documentation ++ allowUnused ++ word "pub" :: method.signature runtime
      ++ [braced (method.body runtime)])]

end GeneratedMethod

namespace ExtensionTrait

def tokens (runtime : List Token) (extension : ExtensionTrait) : List Token :=
  Code.documentation ("Partial updates built from [`" ++ extension.sourceType ++ "`].")
    ++ [word "pub", word "trait", ofIdentifier extension.name,
      braced (extension.methods.flatMap (GeneratedMethod.declaration runtime)),
      word "impl", ofIdentifier extension.name, word "for", ofIdentifier extension.source,
      braced (extension.methods.flatMap (GeneratedMethod.definition runtime))]

end ExtensionTrait

namespace GeneratedCode

def tokens (code : GeneratedCode) : List Token :=
  code.traits.flatMap (ExtensionTrait.tokens code.runtime)
    ++ code.functions.flatMap (GeneratedMethod.function code.runtime)

end GeneratedCode
end PartialUpdate
