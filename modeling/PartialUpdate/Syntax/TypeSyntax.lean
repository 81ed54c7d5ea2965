import PartialUpdate.Syntax.Token

/-!
# Types and paths as written

A written type keeps the types inside it as far as they decide what it is; other parts are
kept as tokens.
-/

namespace PartialUpdate

mutual

inductive TypeSyntax
  /-- The mark, an optional lifetime and `mut` before the target. -/
  | reference (lead : List Token) (target : TypeSyntax)
  | parenthesized (inner : TypeSyntax)
  | array (element : TypeSyntax) (length : List Token)
  | slice (element : TypeSyntax)
  | path (rooted : Bool) (steps : List PathStep)
  /-- A path below a type in angle brackets, and its last name. -/
  | qualified (tokens : List Token) (last : Identifier)
  | bound (enclosed : Bool) (tokens : List Token)
  | other (tokens : List Token)

inductive PathStep
  | plain (name : Identifier)
  | angled (name : Identifier) (turbofish : Bool) (arguments : List GenericArgument)

/-- An argument in angle brackets, and whether a comma follows. -/
inductive GenericArgument
  | type (type : TypeSyntax) (comma : Bool)
  | lifetime (tokens : List Token) (comma : Bool)
  | other (tokens : List Token) (comma : Bool)

end

instance : Inhabited TypeSyntax := ⟨.other []⟩

/-!
# Comparison
-/

mutual

def TypeSyntax.same : TypeSyntax -> TypeSyntax -> Bool
  | .reference lead a, .reference other b => decide (lead = other) && a.same b
  | .parenthesized a, .parenthesized b => a.same b
  | .array a length, .array b other => decide (length = other) && a.same b
  | .slice a, .slice b => a.same b
  | .path rooted a, .path other b => decide (rooted = other) && PathStep.sameAll a b
  | .qualified a m, .qualified b n => decide (a = b ∧ m = n)
  | .bound enclosed a, .bound other b => decide (enclosed = other ∧ a = b)
  | .other a, .other b => decide (a = b)
  | _, _ => false

def PathStep.same : PathStep -> PathStep -> Bool
  | .plain a, .plain b => decide (a = b)
  | .angled m s a, .angled n t b => decide (m = n ∧ s = t) && GenericArgument.sameAll a b
  | _, _ => false

def PathStep.sameAll : List PathStep -> List PathStep -> Bool
  | [], [] => true
  | a :: rest, b :: others => a.same b && PathStep.sameAll rest others
  | _, _ => false

def GenericArgument.same : GenericArgument -> GenericArgument -> Bool
  | .type a s, .type b t => decide (s = t) && a.same b
  | .lifetime a s, .lifetime b t => decide (a = b ∧ s = t)
  | .other a s, .other b t => decide (a = b ∧ s = t)
  | _, _ => false

def GenericArgument.sameAll : List GenericArgument -> List GenericArgument -> Bool
  | [], [] => true
  | a :: rest, b :: others => a.same b && GenericArgument.sameAll rest others
  | _, _ => false

end

mutual

theorem TypeSyntax.same_iff (a b : TypeSyntax) : a.same b = true ↔ a = b := by
  cases a with
  | reference lead a => cases b with
      | reference other b => simp [TypeSyntax.same, TypeSyntax.same_iff a b]
      | _ => simp [TypeSyntax.same]
  | parenthesized a => cases b with
      | parenthesized b => simp [TypeSyntax.same, TypeSyntax.same_iff a b]
      | _ => simp [TypeSyntax.same]
  | array a length => cases b with
      | array b other => simp [TypeSyntax.same, TypeSyntax.same_iff a b, and_comm]
      | _ => simp [TypeSyntax.same]
  | slice a => cases b with
      | slice b => simp [TypeSyntax.same, TypeSyntax.same_iff a b]
      | _ => simp [TypeSyntax.same]
  | path rooted a => cases b with
      | path other b => simp [TypeSyntax.same, PathStep.sameAll_iff a b]
      | _ => simp [TypeSyntax.same]
  | _ => cases b <;> simp [TypeSyntax.same]

theorem PathStep.same_iff (a b : PathStep) : a.same b = true ↔ a = b := by
  cases a with
  | plain a => cases b <;> simp [PathStep.same]
  | angled m s a => cases b with
      | angled n t b =>
          simp [PathStep.same, GenericArgument.sameAll_iff a b, and_assoc]
      | plain _ => simp [PathStep.same]

theorem PathStep.sameAll_iff (a b : List PathStep) : PathStep.sameAll a b = true ↔ a = b := by
  cases a with
  | nil => cases b <;> simp [PathStep.sameAll]
  | cons first rest => cases b with
      | nil => simp [PathStep.sameAll]
      | cons other others =>
          simp [PathStep.sameAll, PathStep.same_iff first other,
            PathStep.sameAll_iff rest others]

theorem GenericArgument.same_iff (a b : GenericArgument) : a.same b = true ↔ a = b := by
  cases a with
  | type a s => cases b with
      | type b t => simp [GenericArgument.same, TypeSyntax.same_iff a b, and_comm]
      | _ => simp [GenericArgument.same]
  | _ => cases b <;> simp [GenericArgument.same]

theorem GenericArgument.sameAll_iff (a b : List GenericArgument) :
    GenericArgument.sameAll a b = true ↔ a = b := by
  cases a with
  | nil => cases b <;> simp [GenericArgument.sameAll]
  | cons first rest => cases b with
      | nil => simp [GenericArgument.sameAll]
      | cons other others =>
          simp [GenericArgument.sameAll, GenericArgument.same_iff first other,
            GenericArgument.sameAll_iff rest others]

end

instance : DecidableEq TypeSyntax :=
  fun a b => decidable_of_iff _ (TypeSyntax.same_iff a b)

instance : DecidableEq PathStep :=
  fun a b => decidable_of_iff _ (PathStep.same_iff a b)

instance : DecidableEq GenericArgument :=
  fun a b => decidable_of_iff _ (GenericArgument.same_iff a b)

/-- A path; a rooted one begins with a separator. -/
structure PathSyntax where
  rooted : Bool
  steps : List PathStep
  deriving DecidableEq, Inhabited

namespace PathStep

def name : PathStep -> Identifier
  | .plain name | .angled name _ _ => name

def isBare : PathStep -> Bool
  | .plain _ => true
  | .angled _ _ arguments => arguments.isEmpty

def isPlain : PathStep -> Bool
  | .plain _ => true
  | _ => false

end PathStep

/-!
# Printing

Lifetimes are printed before other arguments.
-/

structure PrintedArgument where
  lifetime : Bool
  comma : Bool
  tokens : List Token

namespace PrintedArgument

def withComma (argument : PrintedArgument) : List Token :=
  argument.tokens ++ (if argument.comma then [Token.comma] else [])

/-- A lifetime that ended the list is followed by a comma now. -/
def arrange (arguments : List PrintedArgument) : List Token :=
  let lifetimes := arguments.filter PrintedArgument.lifetime
  let others := arguments.filter (fun argument => !argument.lifetime)
  let between :=
    if !others.isEmpty && lifetimes.getLast?.any (fun argument => !argument.comma) then
      [Token.comma]
    else []
  lifetimes.flatMap withComma ++ between ++ others.flatMap withComma

end PrintedArgument

mutual

def TypeSyntax.tokens : TypeSyntax -> List Token
  | .reference lead target => lead ++ target.tokens
  | .parenthesized inner => [Token.parenthesized inner.tokens]
  | .array element length => [Token.bracketed (element.tokens ++ Token.semicolon :: length)]
  | .slice element => [Token.bracketed element.tokens]
  | .path rooted steps =>
      (if rooted then Token.operator "::" else []) ++ PathStep.tokensOfAll steps
  | .qualified tokens _ => tokens
  | .bound true tokens => [Token.parenthesized tokens]
  | .bound false tokens => tokens
  | .other tokens => tokens

def PathStep.tokens : PathStep -> List Token
  | .plain name => [Token.ofIdentifier name]
  | .angled name turbofish arguments =>
      Token.ofIdentifier name :: (if turbofish then Token.operator "::" else [])
        ++ Token.operator "<" ++ PrintedArgument.arrange (GenericArgument.printed arguments)
        ++ Token.operator ">"

def PathStep.tokensOfAll : List PathStep -> List Token
  | [] => []
  | [step] => step.tokens
  | step :: rest => step.tokens ++ Token.operator "::" ++ PathStep.tokensOfAll rest

def GenericArgument.printed : List GenericArgument -> List PrintedArgument
  | [] => []
  | .type type comma :: rest => ⟨false, comma, type.tokens⟩ :: GenericArgument.printed rest
  | .lifetime tokens comma :: rest => ⟨true, comma, tokens⟩ :: GenericArgument.printed rest
  | .other tokens comma :: rest => ⟨false, comma, tokens⟩ :: GenericArgument.printed rest

end

namespace PathSyntax

def tokens (path : PathSyntax) : List Token :=
  (if path.rooted then Token.operator "::" else []) ++ PathStep.tokensOfAll path.steps

def names (path : PathSyntax) : List Identifier :=
  path.steps.map PathStep.name

def isPlain (path : PathSyntax) : Bool :=
  path.steps.all PathStep.isPlain

def isWord (path : PathSyntax) (word : String) : Bool :=
  match path.rooted, path.steps with
  | false, [.plain name] => !name.raw && name.name == word
  | _, _ => false

def text (path : PathSyntax) : String :=
  (if path.rooted then "::" else "") ++ "::".intercalate (path.names.map Identifier.text)

def ofWord (word : String) : PathSyntax :=
  ⟨false, [.plain (Identifier.plain word)]⟩

end PathSyntax
end PartialUpdate
