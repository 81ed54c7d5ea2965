import PartialUpdate.Aggregation
import Mathlib.Data.List.Nodup

/-!
# Comparisons that order

What is sorted here is sorted by texts, by texts that may be absent, or by several of these in
turn.  Each such comparison is a linear order, so that a sorted list ascends by its keys, and
strictly so when no key occurs twice.
-/

namespace PartialUpdate
namespace Ordered

structure IsLinear {α : Type} (le : α -> α -> Bool) : Prop where
  total : forall a b, (le a b || le b a) = true
  trans : forall a b c, le a b = true -> le b c = true -> le a c = true
  antisymm : forall a b, le a b = true -> le b a = true -> a = b

theorem IsLinear.le_refl {α : Type} {le : α -> α -> Bool} (h : IsLinear le) (a : α) :
    le a a = true := by
  have htotal := h.total a a
  rw [Bool.or_self] at htotal
  exact htotal

theorem textLe_isLinear : IsLinear textLe where
  total := by
    intro a b
    have h := String.le_total a b
    simpa [textLe] using h
  trans := by
    intro a b c hab hbc
    have hab : a ≤ b := by simpa [textLe] using hab
    have hbc : b ≤ c := by simpa [textLe] using hbc
    have hac := String.le_trans hab hbc
    simpa [textLe] using hac
  antisymm := by
    intro a b hab hba
    have hab : a ≤ b := by simpa [textLe] using hab
    have hba : b ≤ a := by simpa [textLe] using hba
    exact String.le_antisymm hab hba

theorem optionLe_isLinear : IsLinear optionLe where
  total := by
    intro a b
    cases a with
    | none => rfl
    | some a =>
        cases b with
        | none => rfl
        | some b => exact textLe_isLinear.total a b
  trans := by
    intro a b c hab hbc
    cases a with
    | none => rfl
    | some a =>
        cases b with
        | none => cases hab
        | some b =>
            cases c with
            | none => cases hbc
            | some c => exact textLe_isLinear.trans a b c hab hbc
  antisymm := by
    intro a b hab hba
    cases a with
    | none =>
        cases b with
        | none => rfl
        | some b => cases hba
    | some a =>
        cases b with
        | none => cases hab
        | some b => rw [textLe_isLinear.antisymm a b hab hba]

theorem natLe_isLinear : IsLinear (fun a b : Nat => decide (a <= b)) where
  total := by
    intro a b
    simpa using Nat.le_total a b
  trans := by
    intro a b c hab hbc
    exact decide_eq_true (Nat.le_trans (of_decide_eq_true hab) (of_decide_eq_true hbc))
  antisymm := by
    intro a b hab hba
    exact Nat.le_antisymm (of_decide_eq_true hab) (of_decide_eq_true hba)

/-!
# One comparison after the other
-/

def lexLe {α β : Type} [DecidableEq α] (first : α -> α -> Bool) (second : β -> β -> Bool)
    (a b : α × β) : Bool :=
  if a.1 = b.1 then second a.2 b.2 else first a.1 b.1

theorem lexLe_isLinear {α β : Type} [DecidableEq α] {first : α -> α -> Bool}
    {second : β -> β -> Bool} (hfirst : IsLinear first) (hsecond : IsLinear second) :
    IsLinear (lexLe first second) where
  total := by
    intro a b
    by_cases h : a.1 = b.1
    · simpa [lexLe, h] using hsecond.total a.2 b.2
    · have h' : ¬ b.1 = a.1 := fun hba => h hba.symm
      simpa [lexLe, h, h'] using hfirst.total a.1 b.1
  trans := by
    intro a b c hab hbc
    by_cases h : a.1 = b.1
    · by_cases h' : b.1 = c.1
      · rw [lexLe, if_pos h] at hab
        rw [lexLe, if_pos h'] at hbc
        rw [lexLe, if_pos (h.trans h')]
        exact hsecond.trans _ _ _ hab hbc
      · rw [lexLe, if_neg h'] at hbc
        rw [lexLe, h, if_neg h']
        exact hbc
    · rw [lexLe, if_neg h] at hab
      by_cases h' : b.1 = c.1
      · rw [lexLe, ← h', if_neg h]
        exact hab
      · rw [lexLe, if_neg h'] at hbc
        have hac := hfirst.trans _ _ _ hab hbc
        have hne : ¬ a.1 = c.1 := by
          intro hac'
          rw [← hac'] at hbc
          exact h (hfirst.antisymm _ _ hab hbc)
        rw [lexLe, if_neg hne]
        exact hac
  antisymm := by
    intro a b hab hba
    by_cases h : a.1 = b.1
    · rw [lexLe, if_pos h] at hab
      rw [lexLe, if_pos h.symm] at hba
      exact Prod.ext h (hsecond.antisymm _ _ hab hba)
    · rw [lexLe, if_neg h] at hab
      rw [lexLe, if_neg (fun hba' => h hba'.symm)] at hba
      exact absurd (hfirst.antisymm _ _ hab hba) h

theorem methodKeyLe_isLinear : IsLinear MethodKey.le :=
  lexLe_isLinear textLe_isLinear (lexLe_isLinear textLe_isLinear textLe_isLinear)

theorem keyLe_isLinear : IsLinear keyLe :=
  lexLe_isLinear optionLe_isLinear (lexLe_isLinear optionLe_isLinear textLe_isLinear)

/-!
# Sorted lists
-/

section Sorting

variable {α κ : Type} {le : κ -> κ -> Bool}

theorem pairwise_sort (h : IsLinear le) (key : α -> κ) (items : List α) :
    (items.mergeSort (fun a b => le (key a) (key b))).Pairwise
      (fun a b => le (key a) (key b) = true) := by
  apply List.pairwise_mergeSort
  · intro a b c hab hbc
    exact h.trans _ _ _ hab hbc
  · intro a b
    exact h.total _ _

theorem pairwise_sort_of_nodup (h : IsLinear le) (key : α -> κ) {items : List α}
    (hnodup : (items.map key).Nodup) :
    (items.mergeSort (fun a b => le (key a) (key b))).Pairwise
      (fun a b => le (key a) (key b) = true ∧ key a ≠ key b) := by
  have hperm := (List.mergeSort_perm items (fun a b => le (key a) (key b))).map key
  have hdistinct := List.pairwise_map.mp (hperm.nodup_iff.mpr hnodup)
  exact (pairwise_sort h key items).and hdistinct

/-- Where no key occurs twice, a sort does not depend on the order of the items. -/
theorem sort_eq_of_perm (h : IsLinear le) (key : α -> κ) {items others : List α}
    (hperm : items.Perm others) (hnodup : (items.map key).Nodup) :
    items.mergeSort (fun a b => le (key a) (key b)) =
      others.mergeSort (fun a b => le (key a) (key b)) := by
  have hsorted := (List.mergeSort_perm items (fun a b => le (key a) (key b))).trans
    (hperm.trans (List.mergeSort_perm others (fun a b => le (key a) (key b))).symm)
  apply hsorted.eq_of_pairwise _ (pairwise_sort h key items) (pairwise_sort h key others)
  intro a b ha hb hab hba
  have hkey : key a = key b := h.antisymm _ _ hab hba
  have ha : a ∈ items := List.mem_mergeSort.mp ha
  have hb : b ∈ items := hperm.mem_iff.mpr (List.mem_mergeSort.mp hb)
  exact List.inj_on_of_nodup_map hnodup ha hb hkey

theorem sort_eq_of_pairwise (h : IsLinear le) (key : α -> κ) {items sorted : List α}
    (hperm : items.Perm sorted)
    (hsorted : sorted.Pairwise (fun a b => le (key a) (key b) = true ∧ key a ≠ key b)) :
    items.mergeSort (fun a b => le (key a) (key b)) = sorted := by
  have hnodup : (items.map key).Nodup := by
    rw [(hperm.map key).nodup_iff]
    exact List.pairwise_map.mpr (hsorted.imp (fun hab => hab.2))
  rw [sort_eq_of_perm h key hperm hnodup]
  exact List.mergeSort_of_pairwise (hsorted.imp (fun hab => hab.1))

/-!
# Items with one key
-/

variable [DecidableEq κ]

def under (key : α -> κ) (k : κ) (items : List α) : List α :=
  items.filter (fun item => key item == k)

theorem mem_under {key : α -> κ} {k : κ} {items : List α} {item : α} :
    item ∈ under key k items ↔ item ∈ items ∧ key item = k := by
  simp [under, List.mem_filter]

theorem under_eq_of_perm {key : α -> κ} {items others : List α} (hperm : items.Perm others)
    (hnodup : (items.map key).Nodup) (k : κ) : under key k items = under key k others := by
  have hdistinct := List.pairwise_map.mp hnodup
  have hdistinct' := List.pairwise_map.mp ((hperm.map key).nodup_iff.mp hnodup)
  apply (hperm.filter _).eq_of_pairwise _ (hdistinct.filter _) (hdistinct'.filter _)
  intro a b ha hb hne
  exact absurd ((mem_under.mp ha).2.trans (mem_under.mp hb).2.symm) hne

/-- Where a key tells what an item comes from, the items under it come from there. -/
theorem under_flatMap {β ν : Type} [DecidableEq ν] {key : α -> κ} {name : β -> ν}
    {f : β -> List α} {k : κ} {n : ν}
    (horigin : forall origin item, item ∈ f origin -> key item = k -> name origin = n)
    (origins : List β) :
    under key k (origins.flatMap f) =
      (under name n origins).flatMap (fun origin => under key k (f origin)) := by
  induction origins with
  | nil => rfl
  | cons origin rest ih =>
      unfold under at ih ⊢
      rw [List.flatMap_cons, List.filter_append, ih]
      by_cases hname : name origin = n
      · rw [List.filter_cons_of_pos (by simpa using hname), List.flatMap_cons]
      · have hnone : (f origin).filter (fun item => key item == k) = [] := by
          apply List.filter_eq_nil_iff.mpr
          intro item hitem hkey
          exact hname (horigin origin item hitem (by simpa using hkey))
        rw [List.filter_cons_of_neg (by simpa using hname), hnone, List.nil_append]

theorem under_sort (h : IsLinear le) (key : α -> κ) (k : κ) (items : List α) :
    under key k (items.mergeSort (fun a b => le (key a) (key b))) = under key k items := by
  let sorted := items.mergeSort (fun a b => le (key a) (key b))
  have hsame : (under key k items).Pairwise (fun a b => le (key a) (key b) = true) := by
    apply List.pairwise_of_forall_mem_list
    intro a ha b hb
    rw [(mem_under.mp ha).2, (mem_under.mp hb).2]
    exact h.le_refl k
  have hsublist : (under key k items).Sublist sorted :=
    List.sublist_mergeSort (fun a b c => h.trans (key a) (key b) (key c))
      (fun a b => h.total (key a) (key b)) hsame List.filter_sublist
  have hunder : (under key k items).Sublist (under key k sorted) := by
    have hfiltered := hsublist.filter (fun item => key item == k)
    have hagain : (under key k items).filter (fun item => key item == k) = under key k items := by
      simp [under, List.filter_filter]
    rw [hagain] at hfiltered
    exact hfiltered
  have hlength : (under key k items).length = (under key k sorted).length :=
    ((List.mergeSort_perm items _).filter _).length_eq.symm
  exact (hunder.eq_of_length hlength).symm

theorem mem_iff_of_under_eq {key : α -> κ} {items others : List α}
    (hunder : forall k, under key k items = under key k others) {item : α} :
    item ∈ items ↔ item ∈ others := by
  have h := congrArg (fun list => item ∈ list) (hunder (key item))
  simpa [mem_under] using h

omit [DecidableEq κ] in
theorem le_of_mem_cons (h : IsLinear le) {key : α -> κ} {first : α} {rest : List α}
    (hsorted : (first :: rest).Pairwise (fun a b => le (key a) (key b) = true)) {item : α}
    (hmem : item ∈ first :: rest) : le (key first) (key item) = true := by
  rcases List.mem_cons.mp hmem with rfl | hrest
  · exact h.le_refl _
  · exact (List.pairwise_cons.mp hsorted).1 item hrest

theorem eq_of_under_eq (h : IsLinear le) (key : α -> κ) {items others : List α}
    (hitems : items.Pairwise (fun a b => le (key a) (key b) = true))
    (hothers : others.Pairwise (fun a b => le (key a) (key b) = true))
    (hunder : forall k, under key k items = under key k others) : items = others := by
  induction items generalizing others with
  | nil =>
      cases others with
      | nil => rfl
      | cons other others =>
          have hmem := (mem_iff_of_under_eq hunder).mpr (List.mem_cons_self (a := other))
          cases hmem
  | cons item items ih =>
      have hitem := (mem_iff_of_under_eq hunder).mp (List.mem_cons_self (a := item))
      cases others with
      | nil => cases hitem
      | cons other others =>
          have hother := (mem_iff_of_under_eq hunder).mpr (List.mem_cons_self (a := other))
          have hkey : key item = key other :=
            h.antisymm _ _ (le_of_mem_cons h hitems hother) (le_of_mem_cons h hothers hitem)
          have hheads : item = other := by
            have hhead := hunder (key item)
            simp only [under, List.filter_cons, hkey, beq_self_eq_true, if_true] at hhead
            exact (List.cons.inj hhead).1
          subst hheads
          have htails : forall k, under key k items = under key k others := by
            intro k
            have htail := hunder k
            simp only [under, List.filter_cons] at htail ⊢
            split at htail
            · exact (List.cons.inj htail).2
            · exact htail
          rw [ih hitems.of_cons hothers.of_cons htails]

theorem sort_eq_of_under_eq (h : IsLinear le) (key : α -> κ) {items others : List α}
    (hunder : forall k, under key k items = under key k others) :
    items.mergeSort (fun a b => le (key a) (key b)) =
      others.mergeSort (fun a b => le (key a) (key b)) := by
  apply eq_of_under_eq h key (pairwise_sort h key items) (pairwise_sort h key others)
  intro k
  rw [under_sort h, under_sort h]
  exact hunder k

theorem filter_sort (h : IsLinear le) (key : α -> κ) (p : α -> Bool) (items : List α) :
    (items.mergeSort (fun a b => le (key a) (key b))).filter p =
      (items.filter p).mergeSort (fun a b => le (key a) (key b)) := by
  apply eq_of_under_eq h key ((pairwise_sort h key items).filter p) (pairwise_sort h key _)
  intro k
  have hunder (list : List α) : under key k (list.filter p) = (under key k list).filter p := by
    unfold under
    rw [List.filter_filter, List.filter_filter]
    simp only [Bool.and_comm]
  rw [hunder, under_sort h, under_sort h, hunder]

end Sorting

end Ordered
end PartialUpdate
