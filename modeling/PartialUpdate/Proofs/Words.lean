import PartialUpdate.Text.Words
import PartialUpdate.Proofs.Text

/-!
# Words of plain names

In a name of small letters, digits and underscores every character is a cluster of its own, and a
word ends at an underscore and wherever a letter and a digit meet.  So its words are the parts
between underscores of the name that has an underscore more at each such place.
-/

namespace PartialUpdate

/-!
# Plain characters

There are few of them, so what holds of each is tried.
-/

/-- A small letter or a digit among the first 128 characters, or the underscore. -/
def IsPlainChar (c : Char) : Prop :=
  c.isLower = true ∨ c.isDigit = true ∨ c = '_'

instance (c : Char) : Decidable (IsPlainChar c) :=
  inferInstanceAs (Decidable (_ ∨ _ ∨ _))

namespace IsPlainChar

variable {c : Char}

theorem toNat_lt (h : IsPlainChar c) : c.toNat < 128 := by
  rcases h with hlower | hdigit | rfl
  · have hbound : c.val <= 'z'.val := of_decide_eq_true ((Bool.and_eq_true _ _).mp hlower).2
    exact Nat.lt_of_le_of_lt (UInt32.le_iff_toNat_le.mp hbound) (by decide)
  · have hbound : c.val <= '9'.val := of_decide_eq_true ((Bool.and_eq_true _ _).mp hdigit).2
    exact Nat.lt_of_le_of_lt (UInt32.le_iff_toNat_le.mp hbound) (by decide)
  · decide

theorem of_numbers (p : Char -> Prop) (h : IsPlainChar c)
    (hall : forall n, n < 128 -> IsPlainChar (Char.ofNat n) -> p (Char.ofNat n)) : p c := by
  have hc := hall c.toNat h.toNat_lt
  rw [Char.ofNat_toNat] at hc
  exact hc h

/-- What the tables say about a character: it joins no other, it is a separator only as the
underscore, and it is in lower case. -/
def IsOrdinary (c : Char) : Prop :=
  Grapheme.role c = .other ∧ Words.isSeparator [c] = (c == '_')
    ∧ CaseMap.isSmall [c] = c.isLower ∧ CaseMap.isCapital [c] = false
    ∧ c ≠ 'Σ' ∧ CaseMap.lower c = [c]
    ∧ (c.toUpper = c ↔ c.isLower = false) ∧ c.toUpper.toLower = c
    ∧ (c.isDigit = true -> c.isLower = false)

instance (c : Char) : Decidable (IsOrdinary c) :=
  inferInstanceAs (Decidable (_ ∧ _))

theorem isOrdinary (h : IsPlainChar c) : IsOrdinary c :=
  of_numbers IsOrdinary h (by decide +kernel)

variable (h : IsPlainChar c)

include h

theorem role_eq : Grapheme.role c = .other :=
  h.isOrdinary.1

theorem isSeparator_eq : Words.isSeparator [c] = (c == '_') :=
  h.isOrdinary.2.1

theorem isSmall_eq : CaseMap.isSmall [c] = c.isLower :=
  h.isOrdinary.2.2.1

theorem isCapital_eq : CaseMap.isCapital [c] = false :=
  h.isOrdinary.2.2.2.1

theorem ne_sigma : c ≠ 'Σ' :=
  h.isOrdinary.2.2.2.2.1

theorem lower_eq : CaseMap.lower c = [c] :=
  h.isOrdinary.2.2.2.2.2.1

theorem toUpper_eq_iff : c.toUpper = c ↔ c.isLower = false :=
  h.isOrdinary.2.2.2.2.2.2.1

theorem toLower_toUpper : c.toUpper.toLower = c :=
  h.isOrdinary.2.2.2.2.2.2.2.1

theorem isLower_of_isDigit (hdigit : c.isDigit = true) : c.isLower = false :=
  h.isOrdinary.2.2.2.2.2.2.2.2 hdigit

end IsPlainChar

def IsPlain (name : List Char) : Prop :=
  forall c, c ∈ name -> IsPlainChar c

theorem isPlain_iff {name : List Char} :
    IsPlain name ↔ name.all (fun c => decide (IsPlainChar c)) = true := by
  simp only [IsPlain, List.all_eq_true, decide_eq_true_eq]

instance (name : List Char) : Decidable (IsPlain name) :=
  decidable_of_iff' _ isPlain_iff

theorem isPlain_cons {c : Char} {rest : List Char} :
    IsPlain (c :: rest) ↔ IsPlainChar c ∧ IsPlain rest :=
  List.forall_mem_cons

/-!
# Cases of plain names
-/

namespace CaseMap

theorem lowerAfter_of_isPlain {name : List Char} (h : IsPlain name) (before : List Char) :
    lowerAfter before name = name := by
  induction name generalizing before with
  | nil => rfl
  | cons c rest ih =>
      rcases isPlain_cons.mp h with ⟨hc, hrest⟩
      rw [lowerAfter, ih hrest, hc.lower_eq]
      simp [hc.ne_sigma]

theorem lowerText_of_isPlain {name : List Char} (h : IsPlain name) : lowerText name = name :=
  lowerAfter_of_isPlain h []

theorem upperText_of_lt {name : List Char} (h : forall c, c ∈ name -> c.toNat < 128) :
    upperText name = name.map Char.toUpper := by
  induction name with
  | nil => rfl
  | cons c rest ih =>
      rcases List.forall_mem_cons.mp h with ⟨hc, hrest⟩
      have hupper : upper c = [c.toUpper] := if_pos hc
      have htext : upperText (c :: rest) = upper c ++ upperText rest := rfl
      rw [htext, ih hrest, hupper]
      rfl

end CaseMap

/-!
# Clusters of plain names
-/

namespace Grapheme

variable {c : Char} {rest : List Char}

theorem joins_eq_false {next : Char} (hc : IsPlainChar c) (hnext : IsPlainChar next) :
    joins [c] next = false := by
  simp [joins, hc.role_eq, hnext.role_eq, Role.isAlone, Role.attaches, Role.inSyllable]

theorem clusters_cons_of_isPlain (h : IsPlain (c :: rest)) :
    clusters (c :: rest) = [c] :: clusters rest := by
  rcases isPlain_cons.mp h with ⟨hc, hrest⟩
  cases rest with
  | nil => rfl
  | cons next more =>
      rw [clusters, clustersAfter, joins_eq_false hc (isPlain_cons.mp hrest).1]
      rfl

theorem clusters_of_isPlain {name : List Char} (h : IsPlain name) :
    clusters name = name.map List.singleton := by
  induction name with
  | nil => rfl
  | cons c rest ih =>
      rw [clusters_cons_of_isPlain h, ih (isPlain_cons.mp h).2]
      rfl

end Grapheme

/-!
# Where letters and digits meet
-/

namespace Words

def meets (c next : Char) : Bool :=
  (c.isLower && next.isDigit) || (c.isDigit && next.isLower)

/-- The name with an underscore more wherever a letter and a digit meet. -/
def spaced : List Char -> List Char
  | [] => []
  | c :: rest =>
      if rest.head?.any (meets c) then c :: '_' :: spaced rest else c :: spaced rest

theorem spaced_underscore (rest : List Char) : spaced ('_' :: rest) = '_' :: spaced rest := by
  have hnone : rest.head?.any (meets '_') = false := by
    cases rest with
    | nil => rfl
    | cons next more => rfl
  rw [spaced, hnone]
  rfl

theorem isPlain_spaced {name : List Char} (h : IsPlain name) : IsPlain (spaced name) := by
  induction name with
  | nil => exact h
  | cons c rest ih =>
      rcases isPlain_cons.mp h with ⟨hc, hrest⟩
      have hunderscore : IsPlainChar '_' := Or.inr (Or.inr rfl)
      rw [spaced]
      split
      · exact isPlain_cons.mpr ⟨hc, isPlain_cons.mpr ⟨hunderscore, ih hrest⟩⟩
      · exact isPlain_cons.mpr ⟨hc, ih hrest⟩

/-- Without capitals a word ends only between letters and digits. -/
theorem endsAfter_of_isPlain {c : Char} {rest : List Char} (h : IsPlain (c :: rest)) :
    endsAfter [c] (rest.map List.singleton) = rest.head?.any (meets c) := by
  rcases isPlain_cons.mp h with ⟨hc, hrest⟩
  cases rest with
  | nil => rfl
  | cons next more =>
      have hnext := (isPlain_cons.mp hrest).1
      simp [endsAfter, List.singleton, isNumber, meets, hc.isSmall_eq, hc.isCapital_eq,
        hnext.isSmall_eq, hnext.isCapital_eq]

theorem splitClusters_of_isPlain {name : List Char} (h : IsPlain name) :
    splitClusters (name.map List.singleton) =
      (Text.pieces '_' (spaced name)).map (fun part => part.map List.singleton) := by
  induction name with
  | nil => rfl
  | cons c rest ih =>
      rcases isPlain_cons.mp h with ⟨hc, hrest⟩
      have hends := endsAfter_of_isPlain h
      rw [List.map_cons, List.singleton, splitClusters, ih hrest, hends, hc.isSeparator_eq]
      by_cases hunderscore : c = '_'
      · rw [hunderscore, spaced_underscore, Text.pieces_cons_separator]
        rfl
      · have hkept : (c == '_') = false := beq_eq_false_iff_ne.mpr hunderscore
        cases hpieces : Text.pieces '_' (spaced rest) with
        | nil => exact absurd hpieces (Text.pieces_ne_nil '_' _)
        | cons part more =>
            cases hmeets : rest.head?.any (meets c) with
            | true =>
                have hbehind : Text.pieces '_' ('_' :: spaced rest) = [] :: part :: more := by
                  rw [Text.pieces_cons_separator, hpieces]
                have hsplit := Text.pieces_cons_of_ne hunderscore hbehind
                simp [spaced, hkept, hmeets, hsplit, List.singleton]
            | false =>
                have hjoined := Text.pieces_cons_of_ne hunderscore hpieces
                simp [spaced, hkept, hmeets, hjoined, List.singleton]

theorem split_of_isPlain {name : List Char} (h : IsPlain name) :
    split name = (Text.pieces '_' (spaced name)).map (fun part => part.map List.singleton) := by
  rw [split, Grapheme.clusters_of_isPlain h, splitClusters_of_isPlain h]

end Words
end PartialUpdate
