import Mathlib.Data.List.Nodup
import PartialUpdate.Document.Serialize
import PartialUpdate.Update.Definition

/-!
# What the update document keeps

The operand of an operation stands under its operator and its path.  Operations that share
both meet at one place, and the one that was recorded last takes it: the elements of an earlier
one are kept only as far as the last operand holds them too.
-/

namespace PartialUpdate

namespace UpdateOperation

def key (operation : UpdateOperation) : String × String :=
  (operation.operator, operation.path)

def IsArrayUpdate (operation : UpdateOperation) : Prop :=
  operation.operator ≠ "$set"

end UpdateOperation

namespace DocumentValue

/-- Whether an operand hands a value to its operator: as the operand itself or in its `$each`
array, or in the array that `$pullAll` takes. -/
def StandsIn (operator : String) (value operand : DocumentValue) : Prop :=
  if operator = "$pullAll" then exists items, operand = .array items ∧ value ∈ items
  else
    operand = value
      ∨ exists items, operand = .document [("$each", .array items)] ∧ value ∈ items

end DocumentValue

namespace UpdateOperation

theorem standsIn_operand {operation : UpdateOperation} (harray : operation.IsArrayUpdate)
    {value : DocumentValue} (hmem : value ∈ operation.elements) :
    value.StandsIn operation.operator operation.operand := by
  cases operation with
  | set path stored => exact absurd rfl harray
  | addToSet path stored =>
      exact Or.inl (List.mem_singleton.mp hmem).symm
  | addToSetEach path stored =>
      exact Or.inr ⟨stored, rfl, hmem⟩
  | push path stored =>
      exact Or.inl (List.mem_singleton.mp hmem).symm
  | pushEach path stored =>
      exact Or.inr ⟨stored, rfl, hmem⟩
  | pullAll path stored =>
      exact ⟨stored, rfl, hmem⟩

end UpdateOperation

/-!
# Places of the document
-/

namespace Document

def under (document : Document) (operator : String) : Document :=
  match document.get? operator with
  | some (.document fields) => fields
  | _ => []

def placed? (document : Document) (key : String × String) : Option DocumentValue :=
  (document.under key.1).get? key.2

end Document

namespace UpdateDefinition

theorem render_eq (document : Document) (operation : UpdateOperation) :
    render document operation =
      document.insert operation.operator
        (.document ((document.under operation.operator).insert
          operation.path operation.operand)) := by
  unfold render Document.under
  cases document.get? operation.operator with
  | none => rfl
  | some value => cases value <;> rfl

theorem under_render (document : Document) (operation : UpdateOperation) (operator : String) :
    (render document operation).under operator =
      if operator = operation.operator then
        (document.under operator).insert operation.path operation.operand
      else document.under operator := by
  rw [render_eq]
  unfold Document.under
  rw [Document.get?_insert]
  by_cases h : operator = operation.operator
  · simp [h]
  · simp [h]

theorem placed?_render (document : Document) (operation : UpdateOperation)
    (key : String × String) :
    (render document operation).placed? key =
      if key = operation.key then some operation.operand else document.placed? key := by
  have hkey : key = operation.key ↔
      key.1 = operation.operator ∧ key.2 = operation.path := Prod.ext_iff
  unfold Document.placed?
  rw [under_render]
  by_cases h : key.1 = operation.operator
  · simp [h, hkey, Document.get?_insert]
  · simp [h, hkey]

/-- The operation that was recorded last among those under one operator and path. -/
def lastAt? (update : UpdateDefinition) (key : String × String) : Option UpdateOperation :=
  (update.operations.filter (fun operation => operation.key = key)).getLast?

theorem lastAt?_cons (first : UpdateOperation) (rest : List UpdateOperation)
    (key : String × String) :
    (UpdateDefinition.mk (first :: rest)).lastAt? key =
      ((UpdateDefinition.mk rest).lastAt? key).or
        (if key = first.key then some first else none) := by
  unfold lastAt?
  by_cases h : key = first.key
  · rw [List.filter_cons_of_pos (by simp [h]), List.getLast?_cons, if_pos h]
    cases (rest.filter (fun operation => operation.key = key)).getLast? <;> rfl
  · have hne : ¬ first.key = key := fun heq => h heq.symm
    rw [List.filter_cons_of_neg (by simp [hne]), if_neg h, Option.or_none]

/-- After a run of operations a place holds the operand of the last one that took it. -/
theorem placed?_foldl_render (operations : List UpdateOperation) (document : Document)
    (key : String × String) :
    (operations.foldl render document).placed? key =
      (((UpdateDefinition.mk operations).lastAt? key).map UpdateOperation.operand).or
        (document.placed? key) := by
  induction operations generalizing document with
  | nil => rfl
  | cons first rest ih =>
      rw [List.foldl_cons, ih, placed?_render]
      rw [lastAt?_cons]
      cases (UpdateDefinition.mk rest).lastAt? key with
      | some last => rfl
      | none =>
          by_cases h : key = first.key
          · simp [h]
          · simp [h]

theorem placed?_toDocument (update : UpdateDefinition) (key : String × String) :
    update.toDocument.placed? key = (update.lastAt? key).map UpdateOperation.operand := by
  have hempty : Document.placed? [] key = none := rfl
  rw [toDocument, placed?_foldl_render, hempty, Option.or_none]

/-!
# Lost elements
-/

/-- Every element of every recorded array update stands at its place in the document. -/
def KeepsElements (update : UpdateDefinition) : Prop :=
  forall operation, operation ∈ update.operations -> operation.IsArrayUpdate ->
    forall value, value ∈ operation.elements ->
      exists operand, update.toDocument.placed? operation.key = some operand
        ∧ value.StandsIn operation.operator operand

/-- The definitions that successful calls and the combination of definitions lead to. -/
inductive Reachable {α ε : Type} (serialize : α -> Except ε DocumentValue) :
    UpdateDefinition -> Prop
  | empty : Reachable serialize .empty
  | call {update next : UpdateDefinition} (call : BuilderCall α) :
      Reachable serialize update -> update.call serialize call = .ok next ->
        Reachable serialize next
  | combine {update other : UpdateDefinition} :
      Reachable serialize update -> Reachable serialize other ->
        Reachable serialize (update.combine other)

theorem lastAt?_eq_some_of_mem {update : UpdateDefinition} {operation : UpdateOperation}
    (hmem : operation ∈ update.operations) :
    exists last, update.lastAt? operation.key = some last := by
  have hne : update.operations.filter (fun other => other.key = operation.key) ≠ [] :=
    List.ne_nil_of_mem (List.mem_filter.mpr ⟨hmem, decide_eq_true rfl⟩)
  exact ⟨_, List.getLast?_eq_some_getLast hne⟩

theorem mem_of_lastAt? {update : UpdateDefinition} {key : String × String}
    {last : UpdateOperation} (h : update.lastAt? key = some last) :
    last ∈ update.operations ∧ last.key = key := by
  have hmem := List.mem_of_getLast? h
  simpa using List.mem_filter.mp hmem

theorem lastAt?_of_nodup {update : UpdateDefinition}
    (hnodup : (update.operations.map UpdateOperation.key).Nodup) {operation : UpdateOperation}
    (hmem : operation ∈ update.operations) :
    update.lastAt? operation.key = some operation := by
  rcases lastAt?_eq_some_of_mem hmem with ⟨last, hlast⟩
  have hsame : last = operation :=
    List.inj_on_of_nodup_map hnodup (mem_of_lastAt? hlast).1 hmem (mem_of_lastAt? hlast).2
  rw [hlast, hsame]

theorem keepsElements_of_nodup {update : UpdateDefinition}
    (hnodup : (update.operations.map UpdateOperation.key).Nodup) : update.KeepsElements := by
  intro operation hmem harray value hvalue
  refine ⟨operation.operand, ?_, UpdateOperation.standsIn_operand harray hvalue⟩
  rw [placed?_toDocument, lastAt?_of_nodup hnodup hmem]
  rfl

/-- A place of the update document holds the operand of the last operation recorded for it and
nothing of the earlier ones.  No element is lost exactly when each also stands in the last
operand at its place, as it does when no two operations share operator and path. -/
theorem toDocument_keeps_last (update : UpdateDefinition) :
    (forall key, update.toDocument.placed? key =
      (update.lastAt? key).map UpdateOperation.operand)
    ∧ (update.KeepsElements ↔
      forall operation, operation ∈ update.operations -> operation.IsArrayUpdate ->
        forall value, value ∈ operation.elements ->
          forall last, update.lastAt? operation.key = some last ->
            value.StandsIn operation.operator last.operand)
    ∧ ((update.operations.map UpdateOperation.key).Nodup -> update.KeepsElements) := by
  refine ⟨placed?_toDocument update, ?_, keepsElements_of_nodup⟩
  constructor
  · intro hkeeps operation hmem harray value hvalue last hlast
    rcases hkeeps operation hmem harray value hvalue with ⟨operand, hplaced, hstands⟩
    rw [placed?_toDocument, hlast] at hplaced
    cases hplaced
    exact hstands
  · intro hlasts operation hmem harray value hvalue
    rcases lastAt?_eq_some_of_mem hmem with ⟨last, hlast⟩
    refine ⟨last.operand, ?_, hlasts operation hmem harray value hvalue last hlast⟩
    rw [placed?_toDocument, hlast]
    rfl

theorem toDocument_keeps_last_history :
    (UpdateDefinition.mk [.push "log" (.text "created"), .set "name" (.text "Editors"),
      .pushEach "history" [.int32 1, .int32 1, .int32 2]]).KeepsElements :=
  (toDocument_keeps_last _).2.2 (by decide)

/-- Two texts pushed to the array at `log`, one call after the other. -/
def pushedTwice : UpdateDefinition :=
  ⟨[.push "log" (.text "a"), .push "log" (.text "b")]⟩

theorem not_keepsElements_pushedTwice :
    Reachable Datum.serialize pushedTwice ∧ ¬ pushedTwice.KeepsElements := by
  constructor
  · have hfirst : Reachable Datum.serialize ⟨[.push "log" (.text "a")]⟩ :=
      .call (.push "log" (.text "a")) .empty rfl
    exact .call (.push "log" (.text "b")) hfirst rfl
  · intro hkeeps
    have harray : (UpdateOperation.push "log" (.text "a")).IsArrayUpdate :=
      show "$push" ≠ "$set" by decide
    rcases hkeeps (.push "log" (.text "a")) List.mem_cons_self harray (.text "a")
      List.mem_cons_self with ⟨operand, hplaced, hstands⟩
    have hb : pushedTwice.toDocument.placed? ("$push", "log") = some (.text "b") := rfl
    rw [show (UpdateOperation.push "log" (.text "a")).key = ("$push", "log") from rfl, hb]
      at hplaced
    cases hplaced
    simp [DocumentValue.StandsIn, UpdateOperation.operator] at hstands

end UpdateDefinition
end PartialUpdate
