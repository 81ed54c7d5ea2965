import PartialUpdate.Aggregation
import Mathlib.Data.List.Nodup

/-!
# Paths that are written again

The check for repeated paths goes through the paths of a method once.  What it reports are the
paths that are written more than once, each of them one time, in the order in which they are
written again for the first time.
-/

namespace PartialUpdate
namespace Aggregation

/-- The texts that stand in a list more than once, each one time, and ordered by where they stand
for the second time. -/
structure Repeats (texts again : List String) : Prop where
  once : again.Nodup
  each : forall text, text ∈ again ↔ 2 ≤ texts.count text
  ordered : again.Pairwise (fun a b =>
    exists front, front <+: texts ∧ 2 ≤ front.count a ∧ front.count b < 2)

variable {seen texts rest again other : List String} {path text : String}

theorem Repeats.unique (h : Repeats texts again) (h' : Repeats texts other) : again = other := by
  have hperm : again.Perm other := by
    apply (List.perm_ext_iff_of_nodup h.once h'.once).mpr
    intro text
    rw [h.each, h'.each]
  apply hperm.eq_of_pairwise _ h.ordered h'.ordered
  rintro a b _ha _hb ⟨front, hfront, hmanyA, hfewB⟩ ⟨front', hfront', hmanyB, hfewA⟩
  exfalso
  rcases List.prefix_or_prefix_of_prefix hfront hfront' with hprefix | hprefix
  · have hcount := hprefix.sublist.count_le a
    omega
  · have hcount := hprefix.sublist.count_le b
    omega

theorem repeated_cons_of_mem (h : path ∈ seen) :
    repeated seen (path :: rest) =
      path :: (repeated seen rest).filter (fun other => other != path) := by
  rw [repeated, if_pos (List.contains_iff_mem.mpr h)]

theorem repeated_cons_of_not_mem (h : path ∉ seen) :
    repeated seen (path :: rest) = repeated (path :: seen) rest := by
  rw [repeated, if_neg (fun hseen => h (List.contains_iff_mem.mp hseen))]

theorem count_append_cons_self (seen rest : List String) (path : String) :
    (seen ++ path :: rest).count path = (seen ++ rest).count path + 1 := by
  rw [List.perm_middle.count_eq, List.count_cons_self]

theorem count_append_cons_of_ne (h : text ≠ path) :
    (seen ++ path :: rest).count text = (seen ++ rest).count text := by
  rw [List.perm_middle.count_eq, List.count_cons_of_ne h.symm]

/-- What was seen before counts as a first occurrence. -/
theorem mem_repeated_iff (hseen : seen.Nodup) :
    text ∈ repeated seen texts ↔ 2 ≤ (seen ++ texts).count text := by
  induction texts generalizing seen with
  | nil =>
      have hcount := List.nodup_iff_count_le_one.mp hseen text
      rw [List.append_nil, repeated]
      constructor
      · intro hmem
        cases hmem
      · intro htwo
        omega
  | cons path rest ih =>
      by_cases hpath : path ∈ seen
      · rw [repeated_cons_of_mem hpath, List.mem_cons, List.mem_filter, ih hseen]
        by_cases htext : text = path
        · have hone : 1 ≤ (seen ++ rest).count path :=
            List.one_le_count_iff.mpr (List.mem_append_left rest hpath)
          rw [htext, count_append_cons_self]
          simp only [true_or, true_iff]
          omega
        · simp [htext, count_append_cons_of_ne htext]
      · rw [repeated_cons_of_not_mem hpath, ih (List.nodup_cons.mpr ⟨hpath, hseen⟩),
          List.cons_append, ← List.perm_middle.count_eq]

theorem nodup_repeated (seen texts : List String) : (repeated seen texts).Nodup := by
  induction texts generalizing seen with
  | nil => exact List.nodup_nil
  | cons path rest ih =>
      by_cases hpath : path ∈ seen
      · rw [repeated_cons_of_mem hpath, List.nodup_cons]
        exact ⟨by simp [List.mem_filter], (ih seen).filter _⟩
      · rw [repeated_cons_of_not_mem hpath]
        exact ih (path :: seen)

theorem repeated_pairwise (hseen : seen.Nodup) :
    (repeated seen texts).Pairwise (fun a b =>
      exists front, front <+: texts ∧ 2 ≤ (seen ++ front).count a
        ∧ (seen ++ front).count b < 2) := by
  induction texts generalizing seen with
  | nil => exact .nil
  | cons path rest ih =>
      by_cases hpath : path ∈ seen
      · rw [repeated_cons_of_mem hpath, List.pairwise_cons]
        constructor
        · intro other hother
          rcases List.mem_filter.mp hother with ⟨_, hne⟩
          have hne : other ≠ path := by simpa using hne
          have hone : 1 ≤ seen.count path := List.one_le_count_iff.mpr hpath
          have hless := List.nodup_iff_count_le_one.mp hseen other
          refine ⟨[path], ⟨rest, rfl⟩, ?_, ?_⟩
          · rw [count_append_cons_self, List.append_nil]
            omega
          · rw [count_append_cons_of_ne hne, List.append_nil]
            omega
        · apply ((ih hseen).filter _).imp_of_mem
          rintro a b ha hb ⟨front, hfront, hmany, hfew⟩
          have ha : a ≠ path := by simpa using (List.mem_filter.mp ha).2
          have hb : b ≠ path := by simpa using (List.mem_filter.mp hb).2
          refine ⟨path :: front, List.cons_prefix_cons.mpr ⟨rfl, hfront⟩, ?_, ?_⟩
          · rw [count_append_cons_of_ne ha]
            exact hmany
          · rw [count_append_cons_of_ne hb]
            exact hfew
      · rw [repeated_cons_of_not_mem hpath]
        apply (ih (List.nodup_cons.mpr ⟨hpath, hseen⟩)).imp
        rintro a b ⟨front, hfront, hmany, hfew⟩
        refine ⟨path :: front, List.cons_prefix_cons.mpr ⟨rfl, hfront⟩, ?_, ?_⟩
        · rw [List.perm_middle.count_eq]
          exact hmany
        · rw [List.perm_middle.count_eq]
          exact hfew

theorem repeated_repeats (texts : List String) : Repeats texts (repeated [] texts) where
  once := nodup_repeated [] texts
  each := fun _text => mem_repeated_iff List.nodup_nil
  ordered := repeated_pairwise List.nodup_nil

/-- Three paths are written again; the second one first, and none of them twice in the report. -/
example : repeated [] ["a", "b", "c", "b", "a", "b", "c"] = ["b", "a", "c"] := by
  decide

theorem repeatedPaths_repeats (method : UpdateMethod) :
    Repeats (method.bindings.map (fun binding => binding.target.path)) (repeatedPaths method) :=
  repeated_repeats _

theorem mem_repeatedPaths_iff {method : UpdateMethod} :
    path ∈ repeatedPaths method ↔
      exists a b, [a, b].Sublist method.bindings ∧ a.target.path = path ∧ b.target.path = path := by
  rw [(repeatedPaths_repeats method).each, ← List.replicate_sublist_iff, List.sublist_map_iff]
  constructor
  · rintro ⟨pair, hpair, hpaths⟩
    have hlength : pair.length = 2 := by
      have hcopies := congrArg List.length hpaths
      rw [List.length_replicate, List.length_map] at hcopies
      exact hcopies.symm
    rcases List.length_eq_two.mp hlength with ⟨a, b, rfl⟩
    injection hpaths with ha hrest
    injection hrest with hb _
    exact ⟨a, b, hpair, ha.symm, hb.symm⟩
  · rintro ⟨a, b, hpair, rfl, hb⟩
    exact ⟨[a, b], hpair, by rw [List.map_cons, List.map_singleton, hb]; rfl⟩

theorem repeatedPaths_eq_nil_iff {method : UpdateMethod} :
    repeatedPaths method = [] ↔
      (method.bindings.map (fun binding => binding.target.path)).Nodup := by
  rw [List.eq_nil_iff_forall_not_mem, List.nodup_iff_count_le_one]
  apply forall_congr'
  intro path
  rw [(repeatedPaths_repeats method).each]
  omega

end Aggregation
end PartialUpdate
