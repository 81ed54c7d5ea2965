import PartialUpdate.Syntax.Parser
import PartialUpdate.Text.Similarity

/-!
# Faults of declarations

What may be wrong with the attributes that declare updates.  Faults are collected: a single
one stays as it is, several make a group, and both keep the keys under which they were found.
-/

namespace PartialUpdate

inductive ArgumentForm
  | word
  | list
  | literal
  deriving DecidableEq, Inhabited

namespace ArgumentForm

def name : ArgumentForm -> String
  | .word => "word"
  | .list => "list"
  | .literal => "literal"

end ArgumentForm

inductive DeclarationFault
  | malformed (error : SyntaxError)
  | unknownKey (name : String) (known : List String)
  /-- No key at all is known here. -/
  | strayKey (name : String)
  | repeatedKey (name : String)
  | missingKey (name : String)
  | wrongForm (form : ArgumentForm)
  | wrongType (name : String)
  | unknownValue (text : String)
  | ignoredStruct
  | structAttributeOnField
  | unnamedFields
  /-- An empty list behind a flag: reading stops here without a message. -/
  | emptyFlagList
  deriving DecidableEq, Inhabited

namespace DeclarationFault

def suggestion (name : String) (known : List String) : String :=
  match Similarity.closest? name known with
  | some best => ". Did you mean `" ++ best ++ "`?"
  | none =>
      let sorted := known.mergeSort (fun a b => decide (a <= b))
      ". Available values: " ++ ", ".intercalate (sorted.map (fun key => "`" ++ key ++ "`"))

def message : DeclarationFault -> String
  | .malformed error => error.message
  | .unknownKey name known => "Unknown field: `" ++ name ++ "`" ++ suggestion name known
  | .strayKey name => "Unknown field: `" ++ name ++ "`"
  | .repeatedKey name => "Duplicate field `" ++ name ++ "`"
  | .missingKey name => "Missing field `" ++ name ++ "`"
  | .wrongForm form => "Unexpected meta-item format `" ++ form.name ++ "`"
  | .wrongType name => "Unexpected type `" ++ name ++ "`"
  | .unknownValue text => "Unknown value: `" ++ text ++ "`"
  | .ignoredStruct => "`#[update_ignore]` belongs on fields"
  | .structAttributeOnField => "this attribute belongs on the struct"
  | .unnamedFields => "update sources must have named fields"
  | .emptyFlagList => "an empty list stands for no flag"

end DeclarationFault

/-!
# Groups of faults
-/

/-- Faults with the keys that lead to them. -/
inductive DeclarationError
  | single (fault : DeclarationFault) (place : List String)
  | several (errors : List DeclarationError) (place : List String)
  deriving Inhabited

namespace DeclarationError

def of (fault : DeclarationFault) : DeclarationError :=
  .single fault []

def under (key : String) : DeclarationError -> DeclarationError
  | .single fault place => .single fault (key :: place)
  | .several errors place => .several errors (key :: place)

def ofList? : List DeclarationError -> Option DeclarationError
  | [] => none
  | [error] => some error
  | first :: second :: rest => some (.several (first :: second :: rest) [])

def check {α : Type} (errors : List DeclarationError) (value : α) : Except DeclarationError α :=
  match ofList? errors with
  | none => .ok value
  | some error => .error error

mutual

def faults : DeclarationError -> List DeclarationFault
  | .single fault _ => [fault]
  | .several errors _ => faultsOfAll errors

def faultsOfAll : List DeclarationError -> List DeclarationFault
  | [] => []
  | error :: rest => faults error ++ faultsOfAll rest

end

def placed (place : List String) (text : String) : String :=
  if place.isEmpty then text else text ++ " at " ++ "/".intercalate place

mutual

def message : DeclarationError -> String
  | .single fault place => placed place fault.message
  | .several errors place =>
      placed place ("Multiple errors: (" ++ ", ".intercalate (messages errors) ++ ")")

def messages : List DeclarationError -> List String
  | [] => []
  | error :: rest => message error :: messages rest

end

/-- Whether reading stopped without a message. -/
def isSilent (error : DeclarationError) : Bool :=
  error.faults.contains .emptyFlagList

end DeclarationError

def failure? {ε α : Type} : Except ε α -> Option ε
  | .ok _ => none
  | .error e => some e

end PartialUpdate
