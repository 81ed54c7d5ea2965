import PartialUpdate.Compilation

/-!
# Expansion

A module with an attribute that asks for updates is replaced by itself, without the attributes
that declare them and with the generated code as its last item.  Behind it stands an error for
each diagnostic that is one.
-/

namespace PartialUpdate

structure Expansion where
  /-- All of the module up to its body. -/
  lead : List Token
  attributes : List Token
  /-- The items without the attributes that declare updates. -/
  items : List Item
  generation : Generation

inductive ExpansionError
  | malformed (error : SyntaxError)
  | declarations (error : DeclarationError)
  | bodyMissing
  | generation (error : GenerationError)

namespace ExpansionError

def messages : ExpansionError -> List String
  | .malformed error => [error.message]
  | .declarations error => error.faults.map DeclarationFault.message
  | .bodyMissing => ["`#[update_models]` needs an inline module: `mod name \x7b ... \x7d`"]
  | .generation error => [error.message]

/-- Whether the expansion ends without any tokens to show for it. -/
def isSilent : ExpansionError -> Bool
  | .declarations error => error.isSilent
  | .generation (.unwritableName _) => true
  | .malformed _ | .bodyMissing | .generation (.invalidRuntimePath _) => false

end ExpansionError

namespace Expansion

def failing (message : String) : List Token :=
  Token.operator "::" ++ [Token.word "core"] ++ Token.operator "::"
    ++ [Token.word "compile_error"] ++ Token.operator "!"
    ++ [Token.braced [Token.stringLiteral message]]

def body (expansion : Expansion) : List Item :=
  expansion.items ++ [.other expansion.generation.tokens]

def module (expansion : Expansion) : ModuleSyntax :=
  ⟨expansion.lead, some (expansion.attributes, expansion.body)⟩

def errors (expansion : Expansion) : List Diagnostic :=
  expansion.generation.diagnostics.filter Diagnostic.isError

def tokens (expansion : Expansion) : List Token :=
  expansion.module.tokens
    ++ expansion.errors.flatMap (fun diagnostic => failing diagnostic.display)

end Expansion

/-- Arguments are read first, then the module, then what it declares. -/
def expand (arguments item : List Token) : Except ExpansionError Expansion := do
  let config ← (GeneratorConfig.ofArguments arguments).mapError ExpansionError.declarations
  let module ← (Syntax.module item).mapError ExpansionError.malformed
  match module.body with
  | none => throw .bodyMissing
  | some (attributes, items) =>
      let reading ← (Reading.ofItems items).mapError ExpansionError.declarations
      let generation ← (generate reading.table config false).mapError ExpansionError.generation
      return ⟨module.lead, attributes, items.map Item.stripped, generation⟩

namespace Expansion

/-- The tokens that replace the module; after a failure one error for each message. -/
def printed : Except ExpansionError Expansion -> List Token
  | .ok expansion => expansion.tokens
  | .error error => error.messages.flatMap failing

end Expansion
end PartialUpdate
