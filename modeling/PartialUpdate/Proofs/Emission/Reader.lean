import PartialUpdate.Emission.Code
import PartialUpdate.Syntax.Literal

/-!
# Reading generated tokens

What a reader finds in generated tokens: blocks, functions in the blocks, and in the body of a
function guarded builder calls.  The tokens are taken as they stand; of how they came about the
reader knows only how many tokens the path to the runtime has.
-/

namespace PartialUpdate
namespace CodeReader

/-!
# Words and repetition
-/

/-- How a single token is spelled; literals and groups are no words. -/
def spelling : Token -> String
  | .identifier name _ => name.text
  | .punctuation char _ _ => char.toString
  | .literal .. | .group .. => ""

def expect : List String -> List Token -> Option (List Token)
  | [], tokens => some tokens
  | _ :: _, [] => none
  | word :: words, token :: rest =>
      if spelling token = word then expect words rest else none

/-- A reader takes something off the front of the tokens and gives what is left. -/
abbrev ReadsFront (α : Type) := List Token -> Option (α × List Token)

/-- All that is found from left to right; tokens at which nothing begins are passed over. -/
def scan {α : Type} (read : ReadsFront α) : List Token -> List α
  | [] => []
  | token :: rest =>
      match read (token :: rest) with
      | none => scan read rest
      | some (found, behind) =>
          if behind.length < rest.length + 1 then found :: scan read behind else []
termination_by tokens => tokens.length

def sequence {α : Type} (read : ReadsFront α) : List Token -> Option (List α)
  | [] => some []
  | token :: rest =>
      match read (token :: rest) with
      | none => none
      | some (found, behind) =>
          if behind.length < rest.length + 1 then (sequence read behind).map (found :: ·) else none
termination_by tokens => tokens.length

/-!
# Guards and operands
-/

def isEmptyTest (tokens : List Token) : Bool :=
  match expect [".", "is_empty"] tokens with
  | some [.group .parenthesis [] _] => true
  | _ => false

def isPresentEmptyTest (tokens : List Token) : Bool :=
  match expect [".", "as_ref"] tokens with
  | some (.group .parenthesis [] _ :: rest) =>
      match expect [".", "is_some_and"] rest with
      | some [.group .parenthesis closure _] =>
          (expect ["|", "current", "|", "current"] closure).any isEmptyTest
      | _ => false
  | _ => false

def presentGuard? (condition : List Token) : Option Guard :=
  match expect ["let", ":", ":", "core", ":", ":", "option", ":", ":", "Option", ":", ":", "Some"]
      condition with
  | some (.group .parenthesis [current] _ :: rest) =>
      if spelling current = "current" then
        match expect ["=", "&", "source", "."] rest with
        | some [.identifier field _] => some (.present field)
        | _ => none
      else none
  | _ => none

def currentGuard? (condition : List Token) : Option Guard :=
  match expect ["!", "current"] condition with
  | some rest => if isEmptyTest rest then some .currentFilled else none
  | none => none

def fieldGuard? (condition : List Token) : Option Guard :=
  match expect ["!", "source", "."] condition with
  | some (.identifier field _ :: rest) =>
      if isEmptyTest rest then some (.filled field)
      else if isPresentEmptyTest rest then some (.absentOrFilled field)
      else none
  | _ => none

def guard? (condition : List Token) : Option Guard :=
  ((presentGuard? condition).or (currentGuard? condition)).or (fieldGuard? condition)

def operand? : List Token -> Option Operand
  | [.group .parenthesis tokens _] => some (.elements tokens)
  | [token] =>
      if spelling token = "source" then some .whole
      else if spelling token = "current" then some .current
      else none
  | tokens =>
      match expect ["&"] tokens with
      | some [.group .parenthesis tokens _] => some (.expression tokens)
      | _ =>
          match expect ["&", "source", "."] tokens with
          | some [.identifier field _] => some (.field field)
          | _ => none

/-!
# Calls
-/

def forms : List (String × CallForm) :=
  [("set", .set), ("add_to_set", .addToSet), ("add_to_set_each", .addToSetEach),
    ("push", .push), ("push_each", .pushEach), ("pull_all", .pullAll)]

/-- What is called with what; a single value is wrapped before it is pulled. -/
def invocation? (name : String) (argument : List Token) : Option (CallForm × Operand) :=
  match expect [":", ":", "core", ":", ":", "iter", ":", ":", "once"] argument with
  | some [.group .parenthesis single _] =>
      if name = "pull_all" then (operand? single).map (fun operand => (.pullOne, operand)) else none
  | _ => do return (← forms.lookup name, ← operand? argument)

/-- A builder call whose result is the new update. -/
def bareCall? : ReadsFront GeneratedCall := fun tokens =>
  match expect ["update", "=", "update", "."] tokens with
  | some (.identifier name _ ::
      .group .parenthesis (.literal .string path _ :: .punctuation ',' _ _ :: argument) _ ::
        rest) => do
      let (form, operand) ← invocation? name.text argument
      return (⟨[], form, Literal.stringValue path, operand⟩, ← expect ["?", ";"] rest)
  | _ => none

def splitBlock? : List Token -> Option (List Token × List Token × List Token)
  | [] => none
  | .group .brace inner _ :: rest => some ([], inner, rest)
  | token :: rest =>
      (splitBlock? rest).map (fun (condition, inner, rest) => (token :: condition, inner, rest))

theorem sizeOf_splitBlock? {tokens condition inner rest : List Token}
    (h : splitBlock? tokens = some (condition, inner, rest)) : sizeOf inner < sizeOf tokens := by
  induction tokens generalizing condition with
  | nil => cases h
  | cons token more ih =>
      unfold splitBlock? at h
      split at h
      · cases h
      · rename_i group _ _ heq
        cases heq
        cases h
        simp only [List.cons.sizeOf_spec, Token.group.sizeOf_spec]
        omega
      · rename_i heq
        cases heq
        rcases Option.map_eq_some_iff.mp h with ⟨⟨condition', inner', rest'⟩, hsplit, heq⟩
        cases heq
        have hlt := ih hsplit
        simp only [List.cons.sizeOf_spec]
        omega

/-- A builder call under any number of guards; its block holds nothing else. -/
def call? (tokens : List Token) : Option (GeneratedCall × List Token) :=
  match tokens with
  | [] => none
  | token :: more =>
      if spelling token = "if" then
        match _hsplit : splitBlock? more with
        | none => none
        | some (condition, inner, rest) =>
            match guard? condition, call? inner with
            | some guard, some (call, []) =>
                some ({ call with guards := guard :: call.guards }, rest)
            | _, _ => none
      else bareCall? (token :: more)
termination_by sizeOf tokens
decreasing_by
  have hlt := sizeOf_splitBlock? _hsplit
  simp only [List.cons.sizeOf_spec]
  omega

/-!
# Functions
-/

def behindRuntime (length : Nat) (words : List String) (tokens : List Token) :
    Option (List Token) :=
  expect words (tokens.drop length)

def behindStart (length : Nat) (tokens : List Token) : Option (List Token) := do
  let rest ← expect ["let", "mut", "update", "="] tokens
  match ← behindRuntime length [":", ":", "UpdateDefinition", ":", ":", "<"] rest with
  | .identifier _ _ :: rest =>
      match ← expect [">", ":", ":", "new"] rest with
      | .group .parenthesis [] _ :: rest => expect [";"] rest
      | _ => none
  | _ => none

def endLength : Nat := 13

def isEnd (tokens : List Token) : Bool :=
  match expect [":", ":", "core", ":", ":", "result", ":", ":", "Result", ":", ":", "Ok"] tokens with
  | some [.group .parenthesis [update] _] => spelling update == "update"
  | _ => false

/-- The calls of a body.  A body may begin by calling its own value the source. -/
def body? (length : Nat) (tokens : List Token) : Option (List GeneratedCall) := do
  let own := (expect ["let", "source", "=", "self", ";"] tokens).getD tokens
  let statements ← behindStart length own
  let count := statements.length - endLength
  if isEnd (statements.drop count) then sequence call? (statements.take count) else none

structure FoundFunction where
  name : Identifier
  /-- The type of the parameter; a method takes its own value. -/
  source : Option Identifier
  target : Identifier
  /-- A function that is only declared has none. -/
  body : Option (List Token)

def parameter? (tokens : List Token) : Option (Option Identifier) :=
  match expect ["&", "self"] tokens with
  | some [] => some none
  | _ =>
      match expect ["source", ":", "&"] tokens with
      | some [.identifier source _] => some (some source)
      | _ => none

def result? (length : Nat) : ReadsFront Identifier := fun tokens => do
  let rest ← expect ["-", ">"] tokens
  let rest ← behindRuntime length [":", ":", "UpdateResult", "<"] rest
  match ← behindRuntime length [":", ":", "UpdateDefinition", "<"] rest with
  | .identifier target _ :: rest => return (target, ← expect [">", ">"] rest)
  | _ => none

/-- A body in braces, or the sign that there is none. -/
def ending? : ReadsFront (Option (List Token))
  | .group .brace body _ :: rest => some (some body, rest)
  | tokens => do return (none, ← expect [";"] tokens)

def function? (length : Nat) : ReadsFront FoundFunction := fun tokens => do
  match ← expect ["fn"] tokens with
  | .identifier name _ :: .group .parenthesis parameters _ :: rest =>
      let source ← parameter? parameters
      let (target, rest) ← result? length rest
      let (body, rest) ← ending? rest
      return (⟨name, source, target, body⟩, rest)
  | _ => none

/-!
# Blocks
-/

inductive BlockHead
  | trait (name : Identifier)
  | traitFor (name type : Identifier)
  | type (name : Identifier)

def block? : ReadsFront (BlockHead × List Token)
  | .identifier keyword _ :: .identifier name _ :: .group .brace content _ :: rest =>
      if keyword.text = "trait" then some ((.trait name, content), rest)
      else if keyword.text = "impl" then some ((.type name, content), rest)
      else none
  | .identifier keyword _ :: .identifier name _ :: .identifier joint _ :: .identifier type _ ::
      .group .brace content _ :: rest =>
      if keyword.text = "impl" ∧ joint.text = "for" then
        some ((.traitFor name type, content), rest)
      else none
  | _ => none

/-- The functions in the tokens, each with the block it stands in. -/
def functions (length : Nat) (tokens : List Token) : List (BlockHead × FoundFunction) :=
  (scan block? tokens).flatMap (fun (head, content) =>
    (scan (function? length) content).map (fun function => (head, function)))

end CodeReader
end PartialUpdate
