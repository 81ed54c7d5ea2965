import PartialUpdate.Expansion
import PartialUpdate.Proofs.Except

/-!
# What compilation comes to

A text or a module is compiled exactly when it parses, nothing is wrong with the attributes of
its items, and the table of the items goes through generation.
-/

namespace PartialUpdate

theorem DeclarationError.check_eq_ok_iff {α : Type} {errors : List DeclarationError}
    {value result : α} : check errors value = .ok result ↔ errors = [] ∧ value = result := by
  rcases errors with _ | ⟨first, _ | ⟨second, rest⟩⟩ <;> simp [check, ofList?]

theorem DeclarationError.ofList?_eq_none_iff {errors : List DeclarationError} :
    ofList? errors = none ↔ errors = [] := by
  rcases errors with _ | ⟨first, _ | ⟨second, rest⟩⟩ <;> simp [ofList?]

theorem Reading.ofItems_eq_ok_iff {items : List Item} {reading : Reading} :
    ofItems items = .ok reading ↔
      items.filterMap Item.error? = []
        ∧ ⟨TypeTable.ofItems items, Places.ofItems items⟩ = reading :=
  DeclarationError.check_eq_ok_iff

theorem Reading.errors_eq_nil {items : List Item} {reading : Reading}
    (h : ofItems items = .ok reading) {item : StructSyntax} (hitem : .struct item ∈ items) :
    item.errors = [] := by
  have hnone := List.filterMap_eq_nil_iff.mp (ofItems_eq_ok_iff.mp h).1 _ hitem
  exact DeclarationError.ofList?_eq_none_iff.mp hnone

namespace Compilation

variable {text : String} {config : GeneratorConfig}

theorem read_eq_ok_iff {reading : Reading} :
    read text = .ok reading ↔
      exists attributes items, Syntax.file text = .ok (attributes, items)
        ∧ Reading.ofItems items = .ok reading := by
  unfold read
  constructor
  · intro h
    rcases bind_eq_ok h with ⟨⟨attributes, items⟩, hfile, hread⟩
    exact ⟨attributes, items, mapError_eq_ok_iff.mp hfile, mapError_eq_ok_iff.mp hread⟩
  · rintro ⟨attributes, items, hfile, hread⟩
    rw [hfile]
    exact mapError_eq_ok_iff.mpr hread

theorem generateText_eq_ok_iff {generation : Generation} :
    generateText text config = .ok generation ↔
      exists attributes items, Syntax.file text = .ok (attributes, items)
        ∧ items.filterMap Item.error? = []
        ∧ generate (TypeTable.ofItems items) config false = .ok generation := by
  unfold generateText
  constructor
  · intro h
    rcases bind_eq_ok h with ⟨reading, hread, hgenerate⟩
    rcases read_eq_ok_iff.mp hread with ⟨attributes, items, hfile, hitems⟩
    rcases Reading.ofItems_eq_ok_iff.mp hitems with ⟨hnone, rfl⟩
    exact ⟨attributes, items, hfile, hnone, mapError_eq_ok_iff.mp hgenerate⟩
  · rintro ⟨attributes, items, hfile, hnone, hgenerate⟩
    have hread := read_eq_ok_iff.mpr
      ⟨attributes, items, hfile, Reading.ofItems_eq_ok_iff.mpr ⟨hnone, rfl⟩⟩
    rw [hread]
    exact mapError_eq_ok_iff.mpr hgenerate

end Compilation

theorem expand_eq_ok_iff {arguments item : List Token} {expansion : Expansion} :
    expand arguments item = .ok expansion ↔
      exists config lead attributes items generation,
        GeneratorConfig.ofArguments arguments = .ok config
        ∧ Syntax.module item = .ok ⟨lead, some (attributes, items)⟩
        ∧ items.filterMap Item.error? = []
        ∧ generate (TypeTable.ofItems items) config false = .ok generation
        ∧ expansion = ⟨lead, attributes, items.map Item.stripped, generation⟩ := by
  unfold expand
  constructor
  · intro h
    rcases bind_eq_ok h with ⟨config, hconfig, hrest⟩
    rcases bind_eq_ok hrest with ⟨⟨lead, body⟩, hmodule, hrest⟩
    cases body with
    | none => cases hrest
    | some body =>
        rcases bind_eq_ok hrest with ⟨reading, hread, hrest⟩
        rcases bind_eq_ok hrest with ⟨generation, hgenerate, hdone⟩
        rcases Reading.ofItems_eq_ok_iff.mp (mapError_eq_ok_iff.mp hread) with ⟨hnone, rfl⟩
        cases hdone
        exact ⟨config, lead, body.1, body.2, generation, mapError_eq_ok_iff.mp hconfig,
          mapError_eq_ok_iff.mp hmodule, hnone, mapError_eq_ok_iff.mp hgenerate, rfl⟩
  · rintro ⟨config, lead, attributes, items, generation, hconfig, hmodule, hnone, hgenerate, rfl⟩
    have hread : Reading.ofItems items = .ok _ := Reading.ofItems_eq_ok_iff.mpr ⟨hnone, rfl⟩
    rw [hconfig, hmodule]
    simp only [Except.mapError, bind, Except.bind, hread, hgenerate]
    rfl

end PartialUpdate
