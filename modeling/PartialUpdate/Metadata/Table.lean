import PartialUpdate.Metadata.Spec
import PartialUpdate.Metadata.TypeRef
import PartialUpdate.Text.Trim

/-!
# The type table

Every type that a unit declares, with its members, its own functions and constants, and the
updates declared on it.  Types, members and specs keep the order of their declaration.
-/

namespace PartialUpdate

/-!
# Unqualified names
-/

namespace Text

def afterQualifier? : List Char -> Option (List Char)
  | [] => none
  | c :: rest =>
      match afterQualifier? rest with
      | some tail => some tail
      | none => if c == ':' && rest.head? == some ':' then some rest.tail else none

end Text

def simpleTypeName (name : String) : String :=
  String.ofList (Text.trim ((Text.afterQualifier? name.toList).getD name.toList))

/-!
# Members and types
-/

structure MemberInfo where
  name : String
  /-- The name of the field in stored documents. -/
  storedName : String
  type : TypeRef
  isPublic : Bool := false
  /-- Not stored, so that no path leads to it. -/
  skipped : Bool := false
  /-- Kept out of updates unless a spec names it. -/
  excluded : Bool := false
  specs : List PropertySpec := []
  deriving DecidableEq, Inhabited

namespace MemberInfo

def plain (name : String) (type : TypeRef) : MemberInfo where
  name := name
  storedName := name
  type := type
  isPublic := true

def answersTo (member : MemberInfo) (segment : String) : Bool :=
  !member.skipped && (member.name == segment || member.storedName == segment)

end MemberInfo

structure TypeInfo where
  name : String
  members : List MemberInfo := []
  methods : List String := []
  /-- The type takes functions from extensible markers. -/
  extensible : Bool := false
  markers : List MarkerSpec := []
  typeSpecs : List PropertySpec := []
  deriving DecidableEq, Inhabited

namespace TypeInfo

def member? (info : TypeInfo) (segment : String) : Option MemberInfo :=
  info.members.find? (fun member => member.answersTo segment)

def hasMemberNamed (info : TypeInfo) (name : String) : Bool :=
  info.members.any (fun member => member.name == name) || info.methods.contains name

/-- Whether anything about updates is declared on the type. -/
def isSource (info : TypeInfo) : Bool :=
  !info.markers.isEmpty || !info.typeSpecs.isEmpty
    || info.members.any (fun member => !member.specs.isEmpty)

end TypeInfo

/-!
# Tables
-/

structure TypeTable where
  types : List TypeInfo := []
  deriving DecidableEq, Inhabited

namespace TypeTable

def empty : TypeTable := ⟨[]⟩

def insertInto (info : TypeInfo) : List TypeInfo -> List TypeInfo
  | [] => [info]
  | known :: rest =>
      if known.name == info.name then info :: rest else known :: insertInto info rest

/-- A type of the same name is replaced in its place; a new one goes to the end. -/
def insert (table : TypeTable) (info : TypeInfo) : TypeTable :=
  ⟨insertInto info table.types⟩

/-- The type of exactly this name. -/
def find? (table : TypeTable) (name : String) : Option TypeInfo :=
  table.types.find? (fun info => info.name == name)

/-- The type that a name, qualified or not, stands for. -/
def get? (table : TypeTable) (name : String) : Option TypeInfo :=
  table.find? (simpleTypeName name)

def modifyIn (name : String) (change : TypeInfo -> TypeInfo) : List TypeInfo -> List TypeInfo
  | [] => []
  | known :: rest =>
      if known.name == name then change known :: rest else known :: modifyIn name change rest

def modify (table : TypeTable) (name : String) (change : TypeInfo -> TypeInfo) : TypeTable :=
  ⟨modifyIn name change table.types⟩

def names (table : TypeTable) : List String :=
  table.types.map TypeInfo.name

def sources (table : TypeTable) : List TypeInfo :=
  table.types.filter TypeInfo.isSource

end TypeTable
end PartialUpdate
