import Mathlib.Data.List.Induction
import Mathlib.Data.List.Nodup

/-!
# Insertion order

Where an entry takes the place of the one under its key, and a new key goes to the end, the keys
stand in the order in which they first came.  Each of them stands there once.
-/

namespace PartialUpdate

section

variable {κ : Type} [BEq κ] [LawfulBEq κ]

theorem eraseDups_concat (keys : List κ) (key : κ) :
    (keys ++ [key]).eraseDups =
      if key ∈ keys.eraseDups then keys.eraseDups else keys.eraseDups ++ [key] := by
  rw [List.eraseDups_append]
  by_cases h : key ∈ keys
  · have hnone : [key].removeAll keys = [] := by simp [List.removeAll, h]
    rw [if_pos (List.mem_eraseDups.mpr h), hnone]
    simp
  · have hkept : [key].removeAll keys = [key] := by simp [List.removeAll, h]
    rw [if_neg (fun hmem => h (List.mem_eraseDups.mp hmem)), hkept]
    rfl

theorem nodup_eraseDups (keys : List κ) : keys.eraseDups.Nodup := by
  induction keys using List.reverseRecOn with
  | nil => exact List.nodup_nil
  | append_singleton keys key ih =>
      rw [eraseDups_concat]
      split
      · exact ih
      · rename_i hnew
        rw [← List.concat_eq_append]
        exact ih.concat hnew

theorem eraseDups_of_nodup {keys : List κ} (h : keys.Nodup) : keys.eraseDups = keys := by
  induction keys using List.reverseRecOn with
  | nil => rfl
  | append_singleton keys key ih =>
      have hparts := List.nodup_append.mp h
      have hnew : key ∉ keys := by
        intro hmem
        exact hparts.2.2 key hmem key (List.mem_singleton.mpr rfl) rfl
      rw [eraseDups_concat, ih hparts.1, if_neg hnew]

/-- Keys of a state to which each step adds the key of its item, unless it is there. -/
theorem keys_foldl_eq_eraseDups {σ α : Type} (keys : σ -> List κ) (key : α -> κ)
    (step : σ -> α -> σ)
    (hstep : forall state item, keys (step state item) =
      if key item ∈ keys state then keys state else keys state ++ [key item])
    {start : σ} (hstart : keys start = []) (items : List α) :
    keys (items.foldl step start) = (items.map key).eraseDups := by
  induction items using List.reverseRecOn with
  | nil => rw [List.foldl_nil, hstart, List.map_nil, List.eraseDups_nil]
  | append_singleton items item ih =>
      rw [List.foldl_append, List.foldl_cons, List.foldl_nil, hstep, ih, List.map_append,
        List.map_singleton, eraseDups_concat]

end

theorem eq_of_map_eq {α κ : Type} {key : α -> κ} {entries others : List α}
    (hkeys : entries.map key = others.map key)
    (hsame : forall entry, entry ∈ entries -> forall other, other ∈ others ->
      key entry = key other -> entry = other) : entries = others := by
  induction entries generalizing others with
  | nil => exact (List.map_eq_nil_iff.mp hkeys.symm).symm
  | cons entry rest ih =>
      cases others with
      | nil => cases hkeys
      | cons other more =>
          rw [List.map_cons, List.map_cons] at hkeys
          injection hkeys with hhead htail
          have hentry : entry = other :=
            hsame entry List.mem_cons_self other List.mem_cons_self hhead
          have hrest : rest = more := ih htail
            (fun entry hentry other hother => hsame entry (List.mem_cons_of_mem _ hentry) other
              (List.mem_cons_of_mem _ hother))
          rw [hentry, hrest]

end PartialUpdate
