import PartialUpdate.Declaration.Value

/-!
# Keys of declarations

A declaration is a record that is filled in by keys.  All that is wrong with its arguments is
reported, in their order, and then the required keys that are missing.
-/

namespace PartialUpdate

/-- A key, and what a value of it changes in the record. -/
structure DeclarationKey (σ : Type) where
  name : String
  put : AttributeContent -> σ -> Except DeclarationError σ

namespace DeclarationKey

variable {σ α : Type}

def ofReader (name : String) (read : ValueReader α) (put : α -> σ -> σ) : DeclarationKey σ where
  name := name
  put := fun content record => (read content).map (fun value => put value record)

/-- Fills in the record.  A key that was already given is not read again, even if its value was
wrong. -/
def fill (keys : List (DeclarationKey σ)) :
    List Argument -> List String -> σ -> σ × List DeclarationError
  | [], _, record => (record, [])
  | .literal :: rest, given, record =>
      let (record, errors) := fill keys rest given record
      (record, DeclarationError.of (.wrongForm .literal) :: errors)
  | .keyed name content :: rest, given, record =>
      match keys.find? (fun key => key.name == name) with
      | none =>
          let (record, errors) := fill keys rest given record
          (record, DeclarationError.of (.unknownKey name (keys.map DeclarationKey.name)) :: errors)
      | some key =>
          if given.contains name then
            let (record, errors) := fill keys rest given record
            (record, DeclarationError.of (.repeatedKey name) :: errors)
          else
            match key.put content record with
            | .ok record => fill keys rest (name :: given) record
            | .error error =>
                let (record, errors) := fill keys rest (name :: given) record
                (record, error.under name :: errors)

def isGiven (name : String) (arguments : List Argument) : Bool :=
  arguments.any fun
    | .keyed key _ => key == name
    | .literal => false

def missing (required : List String) (arguments : List Argument) : List DeclarationError :=
  (required.filter (fun name => !isGiven name arguments)).map
    (fun name => DeclarationError.of (.missingKey name))

def readArguments (keys : List (DeclarationKey σ)) (required : List String) (start : σ)
    (arguments : List Argument) : Except DeclarationError σ :=
  let (record, errors) := fill keys arguments [] start
  DeclarationError.check (errors ++ missing required arguments) record

def readList (keys : List (DeclarationKey σ)) (required : List String) (start : σ)
    (tokens : List Token) : Except DeclarationError σ := do
  readArguments keys required start (← Argument.ofTokens tokens)

def readContent (keys : List (DeclarationKey σ)) (required : List String) (start : σ)
    (word : Except DeclarationError σ) : AttributeContent -> Except DeclarationError σ
  | .word => word
  | .list _ tokens => readList keys required start tokens
  | .value expression => .error (DeclarationError.of expression.value.mismatch)

end DeclarationKey
end PartialUpdate
