import Mathlib.Data.List.Forall2

/-!
# Computations that may fail

What a chain of steps, or one step for each item of a list, comes to.
-/

namespace PartialUpdate

section

variable {ε α β : Type}

theorem bind_eq_ok {first : Except ε α} {next : α -> Except ε β} {result : β}
    (h : first >>= next = .ok result) :
    exists value, first = .ok value ∧ next value = .ok result := by
  cases first with
  | error e => cases h
  | ok value => exact ⟨value, rfl, h⟩

theorem map_eq_ok {f : α -> β} {outcome : Except ε α} {result : β}
    (h : outcome.map f = .ok result) : exists value, outcome = .ok value ∧ f value = result := by
  cases outcome with
  | error e => cases h
  | ok value => exact ⟨value, rfl, Except.ok.inj h⟩

theorem map_eq_error_iff {f : α -> β} {outcome : Except ε α} {e : ε} :
    outcome.map f = .error e ↔ outcome = .error e := by
  cases outcome with
  | error e' => simp [Except.map]
  | ok value => simp [Except.map]

theorem bind_pure_eq_error_iff {f : α -> β} {outcome : Except ε α} {e : ε} :
    (outcome >>= fun value => pure (f value)) = .error e ↔ outcome = .error e := by
  cases outcome with
  | error e' => simp [bind, Except.bind]
  | ok value => simp [bind, Except.bind, pure, Except.pure]

theorem mapError_eq_ok_iff {δ : Type} {f : ε -> δ} {outcome : Except ε α} {value : α} :
    outcome.mapError f = .ok value ↔ outcome = .ok value := by
  cases outcome with
  | error e => simp [Except.mapError]
  | ok found => simp [Except.mapError]

theorem exists_of_any_toOption {outcome : Except ε α} {p : α -> Bool}
    (h : outcome.toOption.any p = true) : exists value, outcome = .ok value ∧ p value = true := by
  cases outcome with
  | error e => cases h
  | ok value => exact ⟨value, rfl, h⟩

theorem guarded_eq_ok_iff {p : Prop} [Decidable p] {value result : α} {e : ε} :
    (if p then Except.ok value else .error e) = .ok result ↔ p ∧ result = value := by
  split
  · rename_i hp
    simp [hp, eq_comm]
  · rename_i hp
    simp [hp]

theorem mapM_cons_ok {f : α -> Except ε β} {item : α} {result : β} {items : List α}
    (h : f item = .ok result) :
    (item :: items).mapM f = (items.mapM f).map (fun results => result :: results) := by
  rw [List.mapM_cons, h]
  cases items.mapM f with
  | error e => rfl
  | ok results => rfl

theorem mapM_eq_ok_iff {f : α -> Except ε β} {items : List α} {results : List β} :
    items.mapM f = .ok results ↔
      List.Forall₂ (fun item result => f item = .ok result) items results := by
  constructor
  · intro h
    induction items generalizing results with
    | nil =>
        cases h
        exact .nil
    | cons item items ih =>
        rw [List.mapM_cons] at h
        rcases bind_eq_ok h with ⟨result, hitem, hrest⟩
        rcases bind_eq_ok hrest with ⟨more, hitems, hdone⟩
        cases hdone
        exact .cons hitem (ih hitems)
  · intro h
    induction h with
    | nil => rfl
    | cons hitem _hitems ih =>
        rw [mapM_cons_ok hitem, ih]
        rfl

theorem mapM_eq_error_iff {f : α -> Except ε β} {items : List α} {e : ε} :
    items.mapM f = .error e ↔
      exists before item after, items = before ++ item :: after
        ∧ (forall other, other ∈ before -> exists result, f other = .ok result)
        ∧ f item = .error e := by
  constructor
  · intro h
    induction items with
    | nil => cases h
    | cons item items ih =>
        cases hitem : f item with
        | error e' =>
            rw [List.mapM_cons, hitem] at h
            cases h
            exact ⟨[], item, items, rfl, fun other hother => absurd hother List.not_mem_nil, hitem⟩
        | ok result =>
            rw [mapM_cons_ok hitem] at h
            cases hitems : items.mapM f with
            | ok results =>
                rw [hitems] at h
                cases h
            | error e' =>
                rw [hitems] at h
                cases h
                rcases ih hitems with ⟨before, failing, after, rfl, hbefore, hfailing⟩
                refine ⟨item :: before, failing, after, rfl, ?_, hfailing⟩
                intro other hother
                rcases List.mem_cons.mp hother with rfl | hother
                · exact ⟨result, hitem⟩
                · exact hbefore other hother
  · rintro ⟨before, item, after, rfl, hbefore, hitem⟩
    induction before with
    | nil =>
        rw [List.nil_append, List.mapM_cons, hitem]
        rfl
    | cons first before ih =>
        rcases hbefore first List.mem_cons_self with ⟨result, hfirst⟩
        rw [List.cons_append, mapM_cons_ok hfirst,
          ih (fun other hother => hbefore other (List.mem_cons_of_mem _ hother))]
        rfl

/-- Where a partial function is defined on all items, none of them is left out. -/
theorem forall₂_filterMap {f : α -> Option β} {items : List α}
    (h : forall item, item ∈ items -> exists result, f item = some result) :
    List.Forall₂ (fun item result => f item = some result) items (items.filterMap f) := by
  induction items with
  | nil => exact .nil
  | cons item items ih =>
      rcases h item List.mem_cons_self with ⟨result, hitem⟩
      rw [List.filterMap_cons_some hitem]
      exact .cons hitem (ih (fun other hother => h other (List.mem_cons_of_mem item hother)))

end

end PartialUpdate
