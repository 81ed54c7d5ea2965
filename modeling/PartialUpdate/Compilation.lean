import PartialUpdate.Generation
import PartialUpdate.Reading
import PartialUpdate.Reading.Stripping

/-!
# Compilation

From a program text to the methods generated for it: the text is parsed, its items are read,
and the table goes through generation.  The first stage that fails ends it.
-/

namespace PartialUpdate

inductive CompilationError
  | malformed (error : SyntaxError)
  | declarations (error : DeclarationError)
  | generation (error : GenerationError)

namespace CompilationError

def message : CompilationError -> String
  | .malformed error => "failed to parse source: " ++ error.message
  | .declarations error => "invalid update attributes: " ++ error.message
  | .generation error => error.message

end CompilationError

namespace Compilation

def read (text : String) : Except CompilationError Reading := do
  let (_, items) ← (Syntax.file text).mapError CompilationError.malformed
  (Reading.ofItems items).mapError CompilationError.declarations

def generateText (text : String) (config : GeneratorConfig) :
    Except CompilationError Generation := do
  let reading ← read text
  (generate reading.table config false).mapError CompilationError.generation

/-- The text without the attributes that declare updates. -/
def strip (text : String) : Except CompilationError (List Token) := do
  let (attributes, items) ← (Syntax.file text).mapError CompilationError.malformed
  return attributes ++ (items.map Item.stripped).flatMap Item.tokens

end Compilation
end PartialUpdate
