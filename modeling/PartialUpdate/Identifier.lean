import PartialUpdate.Text.Alphanumeric
import PartialUpdate.Text.Identifier

/-!
# Identifiers

Two rules decide whether a name may stand as an identifier.  Declared names are checked by
letters and numbers; the language itself goes by the characters that may begin and continue
an identifier.  A name that passes the first check and not the second cannot be written.
-/

namespace PartialUpdate
namespace Name

def keywords : List String :=
  ["Self", "abstract", "as", "async", "await", "become", "box", "break", "const", "continue",
    "crate", "do", "dyn", "else", "enum", "extern", "false", "final", "fn", "for", "gen", "if",
    "impl", "in", "let", "loop", "macro", "match", "mod", "move", "mut", "override", "priv",
    "pub", "ref", "return", "self", "static", "struct", "super", "trait", "true", "try", "type",
    "typeof", "unsafe", "unsized", "use", "virtual", "where", "while", "yield"]

/-- Keywords without a raw form. -/
def unescapable : List String :=
  ["Self", "crate", "self", "super"]

def isKeyword (name : String) : Bool :=
  keywords.contains name

def isLetter (c : Char) : Bool :=
  CharSet.alphabetic.contains c

def isLetterOrNumber (c : Char) : Bool :=
  CharSet.alphabetic.contains c || CharSet.numeric.contains c

/-- Whether the name passes for an identifier that is no keyword. -/
def isIdentifier (name : String) : Bool :=
  match name.toList with
  | [] => false
  | first :: rest =>
      (isLetter first || first == '_') && rest.all (fun c => isLetterOrNumber c || c == '_')
        && name != "_" && !isKeyword name

/-- Whether the name passes for an identifier, perhaps a raw one. -/
def isEmittable (name : String) : Bool :=
  isIdentifier name || (isKeyword name && !unescapable.contains name)

/-!
# The rule of the language
-/

def isStart (c : Char) : Bool :=
  c == '_' || CharSet.identifierStart.contains c

def isContinue (c : Char) : Bool :=
  CharSet.identifierContinue.contains c

def isLexical (name : String) : Bool :=
  match name.toList with
  | [] => false
  | first :: rest => isStart first && rest.all isContinue

end Name

/-- An identifier as it is written; a raw one stands after `r#`. -/
structure Identifier where
  raw : Bool
  name : String
  deriving DecidableEq

inductive NameProblem
  | rejected
  /-- The name passes the check and still cannot be written. -/
  | unwritable
  deriving DecidableEq

namespace Identifier

def plain (name : String) : Identifier := ⟨false, name⟩

/-- The identifier for a declared name; keywords become raw ones. -/
def ofName (name : String) : Except NameProblem Identifier :=
  if Name.isIdentifier name then
    if Name.isLexical name then .ok ⟨false, name⟩ else .error .unwritable
  else if Name.isEmittable name then .ok ⟨true, name⟩
  else .error .rejected

end Identifier
end PartialUpdate
