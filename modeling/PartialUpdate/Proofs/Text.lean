import PartialUpdate.Text.Trim
import Mathlib.Data.List.TakeWhile
import Mathlib.Data.List.Basic

/-!
# Trimmed texts and their pieces

What is left of a text without the white space around it, and what stands between its
separators.  Both are determined by properties that do not mention how they are found.
-/

namespace PartialUpdate
namespace Text

/-!
# Surrounding white space
-/

/-- `inner` is the text without the white space around it. -/
structure IsTrimming (text inner : List Char) : Prop where
  around : exists before after, text = before ++ (inner ++ after)
    ∧ (forall c, c ∈ before -> isBlank c = true) ∧ (forall c, c ∈ after -> isBlank c = true)
  first : forall c, inner.head? = some c -> isBlank c = false
  last : forall c, inner.getLast? = some c -> isBlank c = false

theorem dropWhile_eq_self {p : Char -> Bool} {text : List Char}
    (h : forall c, text.head? = some c -> p c = false) : text.dropWhile p = text := by
  cases text with
  | nil => rfl
  | cons c rest =>
      rw [List.dropWhile_cons_of_neg]
      simp [h c rfl]

theorem head?_dropWhile {p : Char -> Bool} {text : List Char} {c : Char}
    (h : (text.dropWhile p).head? = some c) : p c = false := by
  have hnot := List.head?_dropWhile_not p text
  rw [h] at hnot
  simpa using hnot

theorem trimEnd_append {inner after : List Char}
    (hlast : forall c, inner.getLast? = some c -> isBlank c = false)
    (hafter : forall c, c ∈ after -> isBlank c = true) : trimEnd (inner ++ after) = inner := by
  have hblank : forall c, c ∈ after.reverse -> isBlank c = true := by
    intro c hc
    exact hafter c (List.mem_reverse.mp hc)
  have hkept : forall c, inner.reverse.head? = some c -> isBlank c = false := by
    intro c hc
    rw [List.head?_reverse] at hc
    exact hlast c hc
  rw [trimEnd, List.reverse_append, List.dropWhile_append_of_pos hblank, dropWhile_eq_self hkept,
    List.reverse_reverse]

theorem trim_eq_of_isTrimming {text inner : List Char} (h : IsTrimming text inner) :
    trim text = inner := by
  rcases h.around with ⟨before, after, rfl, hbefore, hafter⟩
  have hstart : trimStart (before ++ (inner ++ after)) = trimStart (inner ++ after) :=
    List.dropWhile_append_of_pos hbefore
  rw [trim, hstart]
  cases inner with
  | nil =>
      have hnone : trimStart after = [] := List.dropWhile_eq_nil_iff.mpr hafter
      rw [List.nil_append, hnone]
      rfl
  | cons c rest =>
      have hself : trimStart (c :: rest ++ after) = c :: rest ++ after :=
        dropWhile_eq_self (fun first hfirst => h.first first hfirst)
      rw [hself, trimEnd_append h.last hafter]

theorem trim_isTrimming (text : List Char) : IsTrimming text (trim text) := by
  have hend : exists after, trimStart text = trim text ++ after
      ∧ forall c, c ∈ after -> isBlank c = true := by
    refine ⟨((trimStart text).reverse.takeWhile isBlank).reverse, ?_, ?_⟩
    · rw [trim, trimEnd, ← List.reverse_append, List.takeWhile_append_dropWhile,
        List.reverse_reverse]
    · intro c hc
      exact List.mem_takeWhile_imp (List.mem_reverse.mp hc)
  rcases hend with ⟨after, hstart, hafter⟩
  refine ⟨⟨text.takeWhile isBlank, after, ?_, ?_, hafter⟩, ?_, ?_⟩
  · rw [← hstart, trimStart, List.takeWhile_append_dropWhile]
  · intro c hc
    exact List.mem_takeWhile_imp hc
  · intro c hc
    have hhead : (trimStart text).head? = some c := by
      rw [hstart, List.head?_append, hc]
      rfl
    exact head?_dropWhile hhead
  · intro c hc
    rw [trim, trimEnd, List.getLast?_reverse] at hc
    exact head?_dropWhile hc

theorem trim_eq_iff {text inner : List Char} : trim text = inner ↔ IsTrimming text inner := by
  constructor
  · intro h
    rw [← h]
    exact trim_isTrimming text
  · exact trim_eq_of_isTrimming

theorem trim_append_cons {front back : List Char} {c : Char} (hfront : trim front = front)
    (hback : trim back = back) (hc : isBlank c = false) :
    trim (front ++ c :: back) = front ++ c :: back := by
  have hfirst := (trim_eq_iff.mp hfront).first
  have hlast := (trim_eq_iff.mp hback).last
  apply trim_eq_of_isTrimming
  refine ⟨⟨[], [], by simp, by simp, by simp⟩, ?_, ?_⟩
  · intro d hd
    cases front with
    | nil =>
        cases hd
        exact hc
    | cons e rest => exact hfirst d hd
  · intro d hd
    rw [List.getLast?_append_of_ne_nil _ (List.cons_ne_nil c back)] at hd
    cases back with
    | nil =>
        cases hd
        exact hc
    | cons e rest =>
        rw [List.getLast?_cons_cons] at hd
        exact hlast d hd

/-!
# Pieces
-/

/-- The parts have no separator in them, and joined by it they give the text. -/
structure IsSplit (separator : Char) (text : List Char) (parts : List (List Char)) : Prop where
  nonempty : parts ≠ []
  free : forall part, part ∈ parts -> separator ∉ part
  joined : [separator].intercalate parts = text

variable {separator : Char}

theorem pieces_cons_separator (rest : List Char) :
    pieces separator (separator :: rest) = [] :: pieces separator rest := by
  rw [pieces]
  cases hrest : pieces separator rest with
  | nil => exact absurd hrest (pieces_ne_nil separator rest)
  | cons piece more => simp

theorem pieces_cons_of_ne {c : Char} {rest piece : List Char} {more : List (List Char)}
    (hc : c ≠ separator) (hrest : pieces separator rest = piece :: more) :
    pieces separator (c :: rest) = (c :: piece) :: more := by
  rw [pieces, hrest]
  simp [hc]

theorem pieces_append {part rest piece : List Char} {more : List (List Char)}
    (hpart : separator ∉ part) (hrest : pieces separator rest = piece :: more) :
    pieces separator (part ++ rest) = (part ++ piece) :: more := by
  induction part with
  | nil => exact hrest
  | cons c part ih =>
      rw [List.mem_cons, not_or] at hpart
      exact pieces_cons_of_ne (fun h => hpart.1 h.symm) (ih hpart.2)

theorem pieces_intercalate {parts : List (List Char)} (hparts : parts ≠ [])
    (hfree : forall part, part ∈ parts -> separator ∉ part) :
    pieces separator ([separator].intercalate parts) = parts := by
  induction parts with
  | nil => exact absurd rfl hparts
  | cons part more ih =>
      have hpart := hfree part List.mem_cons_self
      cases more with
      | nil =>
          have hnone : pieces separator [] = [[]] := rfl
          simpa using pieces_append hpart hnone
      | cons next more =>
          have hnext := ih (List.cons_ne_nil _ _)
            (fun part hmem => hfree part (List.mem_cons_of_mem _ hmem))
          have hrest :
              pieces separator (separator :: [separator].intercalate (next :: more)) =
                [] :: pieces separator ([separator].intercalate (next :: more)) :=
            pieces_cons_separator _
          rw [List.intercalate_cons_cons, List.append_assoc, List.singleton_append,
            pieces_append hpart hrest, List.append_nil, hnext]

theorem pieces_append_separator (front back : List Char) :
    pieces separator (front ++ separator :: back) =
      pieces separator front ++ pieces separator back := by
  induction front with
  | nil => exact pieces_cons_separator back
  | cons c rest ih =>
      by_cases hc : c = separator
      · rw [hc, List.cons_append, pieces_cons_separator, ih, pieces_cons_separator,
          List.cons_append]
      · cases hrest : pieces separator rest with
        | nil => exact absurd hrest (pieces_ne_nil separator rest)
        | cons piece more =>
            rw [hrest, List.cons_append] at ih
            rw [List.cons_append, pieces_cons_of_ne hc ih, pieces_cons_of_ne hc hrest,
              List.cons_append]

theorem separator_not_mem (text : List Char) :
    forall part, part ∈ pieces separator text -> separator ∉ part := by
  induction text with
  | nil =>
      intro part hpart
      rw [pieces, List.mem_singleton] at hpart
      rw [hpart]
      exact List.not_mem_nil
  | cons c rest ih =>
      intro part hpart
      by_cases hc : c = separator
      · rw [hc, pieces_cons_separator] at hpart
        rcases List.mem_cons.mp hpart with rfl | hpart
        · exact List.not_mem_nil
        · exact ih part hpart
      · cases hrest : pieces separator rest with
        | nil => exact absurd hrest (pieces_ne_nil separator rest)
        | cons piece more =>
            rw [hrest] at ih
            rw [pieces_cons_of_ne hc hrest] at hpart
            rcases List.mem_cons.mp hpart with rfl | hpart
            · have hpiece := ih piece List.mem_cons_self
              simp [hpiece, Ne.symm hc]
            · exact ih part (List.mem_cons_of_mem _ hpart)

theorem mem_of_mem_pieces {text part : List Char} {c : Char}
    (hpart : part ∈ pieces separator text) (hc : c ∈ part) : c ∈ text := by
  induction text generalizing part with
  | nil =>
      rw [pieces, List.mem_singleton] at hpart
      rw [← hpart]
      exact hc
  | cons d rest ih =>
      by_cases hd : d = separator
      · rw [hd, pieces_cons_separator] at hpart
        rcases List.mem_cons.mp hpart with rfl | hpart
        · cases hc
        · exact List.mem_cons_of_mem _ (ih hpart hc)
      · cases hrest : pieces separator rest with
        | nil => exact absurd hrest (pieces_ne_nil separator rest)
        | cons piece more =>
            rw [hrest] at ih
            rw [pieces_cons_of_ne hd hrest] at hpart
            rcases List.mem_cons.mp hpart with rfl | hpart
            · rcases List.mem_cons.mp hc with rfl | hc
              · exact List.mem_cons_self
              · exact List.mem_cons_of_mem _ (ih List.mem_cons_self hc)
            · exact List.mem_cons_of_mem _ (ih (List.mem_cons_of_mem _ hpart) hc)

theorem intercalate_pieces (text : List Char) :
    [separator].intercalate (pieces separator text) = text := by
  induction text with
  | nil => rfl
  | cons c rest ih =>
      cases hrest : pieces separator rest with
      | nil => exact absurd hrest (pieces_ne_nil separator rest)
      | cons piece more =>
          rw [hrest] at ih
          by_cases hc : c = separator
          · rw [hc, pieces_cons_separator, hrest, List.intercalate_cons_cons, ih]
            rfl
          · rw [pieces_cons_of_ne hc hrest, ← ih]
            cases more with
            | nil => simp
            | cons next more => simp

theorem pieces_isSplit (separator : Char) (text : List Char) :
    IsSplit separator text (pieces separator text) :=
  ⟨pieces_ne_nil separator text, separator_not_mem text, intercalate_pieces text⟩

theorem pieces_eq_iff {text : List Char} {parts : List (List Char)} :
    pieces separator text = parts ↔ IsSplit separator text parts := by
  constructor
  · intro h
    rw [← h]
    exact pieces_isSplit separator text
  · intro h
    rw [← h.joined]
    exact pieces_intercalate h.nonempty h.free

/-!
# Joined pieces
-/

def IsTight (part : List Char) : Prop :=
  part ≠ [] ∧ (forall c, part.head? = some c -> isBlank c = false)
    ∧ forall c, part.getLast? = some c -> isBlank c = false

theorem isTight_append {front back : List Char} (hfront : front ≠ []) (hback : back ≠ [])
    (hfirst : forall c, front.head? = some c -> isBlank c = false)
    (hlast : forall c, back.getLast? = some c -> isBlank c = false) : IsTight (front ++ back) := by
  refine ⟨List.append_ne_nil_of_left_ne_nil hfront back, ?_, ?_⟩
  · intro c hc
    rw [List.head?_append_of_ne_nil _ hfront] at hc
    exact hfirst c hc
  · intro c hc
    rw [List.getLast?_append_of_ne_nil _ hback] at hc
    exact hlast c hc

theorem isTight_intercalate {parts : List (List Char)} (hparts : parts ≠ [])
    (h : forall part, part ∈ parts -> IsTight part) :
    IsTight ([separator].intercalate parts) := by
  induction parts with
  | nil => exact absurd rfl hparts
  | cons part more ih =>
      rcases h part List.mem_cons_self with ⟨hne, hfirst, hlast⟩
      cases more with
      | nil =>
          rw [List.intercalate_singleton]
          exact ⟨hne, hfirst, hlast⟩
      | cons next more =>
          rcases ih (List.cons_ne_nil _ _)
            (fun other hother => h other (List.mem_cons_of_mem _ hother)) with
            ⟨hmore, _, hmoreLast⟩
          rw [List.intercalate_cons_cons, List.append_assoc]
          refine isTight_append hne (by simp) hfirst ?_
          intro c hc
          rw [List.getLast?_append_of_ne_nil _ hmore] at hc
          exact hmoreLast c hc

theorem isTrimming_self {text : List Char} (h : IsTight text) : IsTrimming text text := by
  refine ⟨⟨[], [], by simp, ?_, ?_⟩, h.2.1, h.2.2⟩
  · intro c hc
    cases hc
  · intro c hc
    cases hc

end Text
end PartialUpdate
