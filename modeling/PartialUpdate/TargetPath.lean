import PartialUpdate.Text.Trim

/-!
# Target paths

A path leads from a document to a field in it, member by member.  After a member an index in
brackets addresses an element of the collection: `[$]` the one that the query matched, `[]`
every one, `[hit]` those that the filter `hit` matches, and `[2]` the one at place two.
-/

namespace PartialUpdate

inductive PathIndex
  | positional
  | allPositional
  | filtered (name : String)
  | element (position : Nat)
  deriving DecidableEq

structure PathSegment where
  member : String
  index : Option PathIndex
  deriving DecidableEq

structure TargetPath where
  segments : List PathSegment
  deriving DecidableEq

inductive PathError
  | empty
  /-- The piece has no member name, or the name holds a reserved character. -/
  | invalidSegment (piece : String)
  /-- The piece opens an index and does not close a valid one. -/
  | invalidIndex (piece : String)
  deriving DecidableEq

namespace PathError

def message : PathError -> String
  | .empty => "path is empty"
  | .invalidSegment piece => "invalid path segment `" ++ piece ++ "`"
  | .invalidIndex piece => "invalid array index in `" ++ piece ++ "`"

end PathError

/-!
# Indexes
-/

namespace PathIndex

def render : PathIndex -> String
  | .positional => "$"
  | .allPositional => "$[]"
  | .filtered name => "$[" ++ name ++ "]"
  | .element position => toString position

def written : PathIndex -> String
  | .positional => "$"
  | .allPositional => ""
  | .filtered name => name
  | .element position => toString position

def positionBound : Nat := Nat.pow 2 64

def digitsValue (digits : List Char) : Nat :=
  digits.foldl (fun value c => value * 10 + (c.toNat - '0'.toNat)) 0

def isLowerLetter (c : Char) : Bool :=
  'a' <= c && c <= 'z'

def isNameChar (c : Char) : Bool :=
  c.isAlpha || c.isDigit || c == '_'

def isFilterName : List Char -> Bool
  | [] => false
  | c :: rest => isLowerLetter c && rest.all isNameChar

def parse? (inner : List Char) : Option PathIndex :=
  if inner = ['$'] then some .positional
  else if inner.isEmpty then some .allPositional
  else if inner.all Char.isDigit then
    let position := digitsValue inner
    if position < positionBound then some (.element position) else none
  else if isFilterName inner then some (.filtered (String.ofList inner))
  else none

end PathIndex

/-!
# Segments
-/

namespace PathSegment

def isReserved (c : Char) : Bool :=
  c == '[' || c == ']' || c == '$' || c == '.'

def isMemberName (name : List Char) : Bool :=
  !name.isEmpty && name.all (fun c => !Text.isBlank c && !isReserved c)

/-- What stands before the first opening bracket, and what follows it. -/
def splitIndex (piece : List Char) : List Char × Option (List Char) :=
  (piece.takeWhile (fun c => c != '['), (piece.dropWhile (fun c => c != '[')).tail?)

def closed? (text : List Char) : Option (List Char) :=
  if text.getLast? = some ']' then some text.dropLast else none

/-- The index is looked at before the member name. -/
def parse (piece : List Char) : Except PathError PathSegment :=
  let (name, rest) := splitIndex piece
  let named (index : Option PathIndex) : Except PathError PathSegment :=
    if isMemberName name then .ok ⟨String.ofList name, index⟩
    else .error (.invalidSegment (String.ofList piece))
  match rest with
  | none => named none
  | some rest =>
      match (closed? rest).bind PathIndex.parse? with
      | some index => named (some index)
      | none => .error (.invalidIndex (String.ofList piece))

def display (segment : PathSegment) : String :=
  match segment.index with
  | none => segment.member
  | some index => segment.member ++ "[" ++ index.written ++ "]"

/-- The steps of a stored path below the stored name of the member. -/
def indexSteps (segment : PathSegment) : List String :=
  (segment.index.map PathIndex.render).toList

end PathSegment

/-!
# Paths
-/

namespace TargetPath

def parse (text : String) : Except PathError TargetPath := do
  let trimmed := Text.trim text.toList
  if trimmed.isEmpty then throw .empty
  return ⟨← (Text.pieces '.' trimmed).mapM PathSegment.parse⟩

def display (path : TargetPath) : String :=
  ".".intercalate (path.segments.map PathSegment.display)

def endsWithIndex (path : TargetPath) : Bool :=
  path.segments.getLast?.any (fun segment => segment.index.isSome)

end TargetPath
end PartialUpdate
