import PartialUpdate.Identifier
import PartialUpdate.Proofs.TargetPath.Grammar

/-!
# Identifiers as paths

A name of letters and numbers has neither white space nor reserved characters in it, and neither
has an identifier of the language.  So each of them is a path of one step, which goes by the name
as it stands.
-/

namespace PartialUpdate

/-!
# Sets of characters that have none in common
-/

namespace CharSet

def Apart (a b : CharSet) : Prop :=
  forall range, range ∈ a.ranges ->
    forall n, n ∈ List.range' range.1 (range.2 + 1 - range.1) -> covers b.ranges n = false

theorem apart_iff {a b : CharSet} :
    Apart a b ↔ a.ranges.all (fun range =>
      (List.range' range.1 (range.2 + 1 - range.1)).all (fun n => !covers b.ranges n)) = true := by
  simp only [Apart, List.all_eq_true, Bool.not_eq_true']

instance (a b : CharSet) : Decidable (Apart a b) :=
  decidable_of_iff' _ apart_iff

theorem exists_range_of_covers {ranges : List (Nat × Nat)} {n : Nat}
    (h : covers ranges n = true) :
    exists range, range ∈ ranges ∧ n ∈ List.range' range.1 (range.2 + 1 - range.1) := by
  induction ranges with
  | nil => cases h
  | cons range rest ih =>
      unfold covers at h
      split at h
      · cases h
      · rename_i hfirst
        split at h
        · rename_i hlast
          refine ⟨range, List.mem_cons_self, ?_⟩
          rw [List.mem_range'_1]
          omega
        · rcases ih h with ⟨other, hother, hn⟩
          exact ⟨other, List.mem_cons_of_mem _ hother, hn⟩

theorem Apart.not_contains {a b : CharSet} (h : Apart a b) {c : Char}
    (hc : b.contains c = true) : a.contains c = false := by
  rw [Bool.eq_false_iff]
  intro ha
  rcases exists_range_of_covers ha with ⟨range, hrange, hn⟩
  rw [contains, h range hrange c.toNat hn] at hc
  cases hc

end CharSet

/-!
# Characters of identifiers
-/

namespace Name

/-- A character of identifiers, by the rule for declared names or by that of the language. -/
def IsWordChar (c : Char) : Prop :=
  isLetterOrNumber c = true ∨ isStart c = true ∨ isContinue c = true

def IsWord (name : String) : Prop :=
  isEmittable name = true ∨ isLexical name = true

theorem isWordChar_underscore : IsWordChar '_' :=
  Or.inr (Or.inl rfl)

theorem isWordChar_of_mem_keywords {keyword : String} (h : keyword ∈ keywords) :
    keyword.toList ≠ [] ∧ forall c, c ∈ keyword.toList -> isLetterOrNumber c = true := by
  have hall : keywords.all (fun keyword =>
      !keyword.toList.isEmpty && keyword.toList.all isLetterOrNumber) = true := by
    decide +kernel
  simpa using List.all_eq_true.mp hall keyword h

theorem isWordChar_of_isIdentifier {name : String} (h : isIdentifier name = true) :
    name.toList ≠ [] ∧ forall c, c ∈ name.toList -> IsWordChar c := by
  unfold isIdentifier at h
  split at h
  · cases h
  · rename_i first rest hname
    simp only [Bool.and_eq_true, Bool.or_eq_true, List.all_eq_true, beq_iff_eq, isLetter] at h
    rw [hname]
    refine ⟨List.cons_ne_nil _ _, ?_⟩
    intro c hc
    rcases List.mem_cons.mp hc with rfl | hc
    · rcases h.1.1.1 with hletter | rfl
      · exact Or.inl (by simp [isLetterOrNumber, hletter])
      · exact isWordChar_underscore
    · rcases h.1.1.2 c hc with hletter | rfl
      · exact Or.inl hletter
      · exact isWordChar_underscore

theorem isWordChar_of_isWord {name : String} (h : IsWord name) :
    name.toList ≠ [] ∧ forall c, c ∈ name.toList -> IsWordChar c := by
  rcases h with hemittable | hlexical
  · rw [isEmittable, Bool.or_eq_true, Bool.and_eq_true] at hemittable
    rcases hemittable with hidentifier | ⟨hkeyword, _⟩
    · exact isWordChar_of_isIdentifier hidentifier
    · rcases isWordChar_of_mem_keywords (List.contains_iff_mem.mp hkeyword) with ⟨hne, hall⟩
      exact ⟨hne, fun c hc => Or.inl (hall c hc)⟩
  · unfold isLexical at hlexical
    split at hlexical
    · cases hlexical
    · rename_i first rest hname
      rw [Bool.and_eq_true, List.all_eq_true] at hlexical
      rw [hname]
      refine ⟨List.cons_ne_nil _ _, ?_⟩
      intro c hc
      rcases List.mem_cons.mp hc with rfl | hc
      · exact Or.inr (Or.inl hlexical.1)
      · exact Or.inr (Or.inr (hlexical.2 c hc))

/-- The characters of a set are neither white space nor reserved in paths. -/
def MayName (set : CharSet) : Prop :=
  CharSet.Apart CharSet.blank set
    ∧ ['[', ']', '$', '.'].all (fun c => !set.contains c) = true

instance (set : CharSet) : Decidable (MayName set) :=
  inferInstanceAs (Decidable (_ ∧ _))

theorem MayName.of_contains {set : CharSet} (h : MayName set) {c : Char}
    (hc : set.contains c = true) : Text.isBlank c = false ∧ PathSegment.isReserved c = false := by
  refine ⟨h.1.not_contains hc, ?_⟩
  rw [Bool.eq_false_iff]
  intro hreserved
  have hmem : c ∈ ['[', ']', '$', '.'] := by
    simpa [PathSegment.isReserved, or_assoc] using hreserved
  have hnone := List.all_eq_true.mp h.2 c hmem
  rw [hc] at hnone
  cases hnone

theorem not_reserved_of_isWordChar {c : Char} (h : IsWordChar c) :
    Text.isBlank c = false ∧ PathSegment.isReserved c = false := by
  have halphabetic : MayName CharSet.alphabetic := by decide +kernel
  have hnumeric : MayName CharSet.numeric := by decide +kernel
  have hstart : MayName CharSet.identifierStart := by decide +kernel
  have hcontinue : MayName CharSet.identifierContinue := by decide +kernel
  rcases h with hletter | hfirst | hlater
  · rcases (Bool.or_eq_true _ _).mp hletter with hletter | hnumber
    · exact halphabetic.of_contains hletter
    · exact hnumeric.of_contains hnumber
  · rcases (Bool.or_eq_true _ _).mp hfirst with hunderscore | hfirst
    · rw [beq_iff_eq.mp hunderscore]
      decide
    · exact hstart.of_contains hfirst
  · exact hcontinue.of_contains hlater

end Name

/-!
# Paths of one step
-/

namespace TargetPath

theorem parse_word {name : String} (h : Name.IsWord name) :
    parse name = .ok ⟨[⟨name, none⟩]⟩ := by
  rcases Name.isWordChar_of_isWord h with ⟨hne, hword⟩
  have hplain : forall c, c ∈ name.toList ->
      Text.isBlank c = false ∧ PathSegment.isReserved c = false :=
    fun c hc => Name.not_reserved_of_isWordChar (hword c hc)
  have hnot : forall c, PathSegment.isReserved c = true -> c ∉ name.toList := by
    intro c hc hmem
    rw [(hplain c hmem).2] at hc
    cases hc
  have htrim : Text.trim name.toList = name.toList := by
    apply Text.trim_eq_of_isTrimming
    apply Text.isTrimming_self
    exact ⟨hne, fun c hc => (hplain c (List.mem_of_mem_head? hc)).1,
      fun c hc => (hplain c (List.mem_of_mem_getLast? hc)).1⟩
  have hpieces : Text.pieces '.' name.toList = [name.toList] := by
    apply Text.pieces_eq_iff.mpr
    refine ⟨List.cons_ne_nil _ _, ?_, List.intercalate_singleton⟩
    intro part hpart
    rw [List.mem_singleton.mp hpart]
    exact hnot '.' (by decide)
  have hname : PathSegment.isMemberName name.toList = true := by
    simp only [PathSegment.isMemberName, Bool.and_eq_true, List.all_eq_true, Bool.not_eq_true']
    exact ⟨by simpa using hne, hplain⟩
  rw [parse_eq_ok_iff, htrim, hpieces, mapM_eq_ok_iff, List.forall₂_cons]
  refine ⟨?_, .nil⟩
  rw [PathSegment.parse_plain (hnot '[' (by decide)), if_pos hname, String.ofList_toList]

end TargetPath
end PartialUpdate
