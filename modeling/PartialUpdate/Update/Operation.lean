import PartialUpdate.Document.Value

/-!
# Update operations

One operation changes the field at one path.  Each falls under an operator of the update
document, where its operand stands under its path.
-/

namespace PartialUpdate

inductive UpdateOperation
  | set (path : String) (value : DocumentValue)
  | addToSet (path : String) (value : DocumentValue)
  | addToSetEach (path : String) (values : List DocumentValue)
  | push (path : String) (value : DocumentValue)
  | pushEach (path : String) (values : List DocumentValue)
  | pullAll (path : String) (values : List DocumentValue)

namespace UpdateOperation

def operator : UpdateOperation -> String
  | .set .. => "$set"
  | .addToSet .. | .addToSetEach .. => "$addToSet"
  | .push .. | .pushEach .. => "$push"
  | .pullAll .. => "$pullAll"

def path : UpdateOperation -> String
  | .set path _ | .addToSet path _ | .addToSetEach path _ => path
  | .push path _ | .pushEach path _ | .pullAll path _ => path

def elements : UpdateOperation -> List DocumentValue
  | .set _ value | .addToSet _ value | .push _ value => [value]
  | .addToSetEach _ values | .pushEach _ values | .pullAll _ values => values

def operand : UpdateOperation -> DocumentValue
  | .set _ value | .addToSet _ value | .push _ value => value
  | .addToSetEach _ values | .pushEach _ values => .document [("$each", .array values)]
  | .pullAll _ values => .array values

def same : UpdateOperation -> UpdateOperation -> Bool
  | .set p a, .set q b | .addToSet p a, .addToSet q b | .push p a, .push q b =>
      p == q && a.same b
  | .addToSetEach p as, .addToSetEach q bs | .pushEach p as, .pushEach q bs
  | .pullAll p as, .pullAll q bs => p == q && DocumentValue.sameItems as bs
  | _, _ => false

end UpdateOperation
end PartialUpdate
