import PartialUpdate.Reading.Place

/-!
# Reading a unit

The items of a unit give a table of the types that they declare.  Functions and constants of a
type may stand before it or after it.
-/

namespace PartialUpdate

namespace TypeSyntax

def lastName? : TypeSyntax -> Option String
  | .path _ steps => steps.getLast?.map (fun step => step.name.name)
  | .qualified _ last => some last.name
  | _ => none

end TypeSyntax

namespace ImplSyntax

/-- The type to which the members belong, unless they are those of a trait. -/
def owner? (item : ImplSyntax) : Option String :=
  if item.ofTrait then none else item.selfType.lastName?

/-- The names of the members that are understood. -/
def memberNames (item : ImplSyntax) : List String :=
  (item.members.filter ImplMember.understood).map (fun member => member.name.name)

end ImplSyntax

namespace Item

def info? : Item -> Option TypeInfo
  | .struct item => some item.info
  | .enumeration item => some { name := item.name.name }
  | .implementation _ | .other _ => none

def error? : Item -> Option DeclarationError
  | .struct item => item.error?
  | .enumeration _ | .implementation _ | .other _ => none

end Item

namespace TypeTable

def withMembers (table : TypeTable) : Item -> TypeTable
  | .implementation item =>
      match item.owner? with
      | some owner =>
          table.modify owner (fun info =>
            { info with methods := info.methods ++ item.memberNames })
      | none => table
  | _ => table

def ofItems (items : List Item) : TypeTable :=
  let declared := (items.filterMap Item.info?).foldl TypeTable.insert TypeTable.empty
  items.foldl TypeTable.withMembers declared

end TypeTable

structure Reading where
  table : TypeTable
  places : Places

namespace Reading

/-- All that is wrong in the items is reported at once. -/
def ofItems (items : List Item) : Except DeclarationError Reading :=
  DeclarationError.check (items.filterMap Item.error?)
    ⟨TypeTable.ofItems items, Places.ofItems items⟩

end Reading
end PartialUpdate
