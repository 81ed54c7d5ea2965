import PartialUpdate.Proofs.TargetPath.Grammar
import Mathlib.Data.List.Induction

/-!
# Written paths

A path that was read is written as it stood in the text, without the white space around it and
without the leading zeros of its positions.  So it is read back as the same path, and two paths
that were read differ when their texts do.
-/

namespace PartialUpdate

/-!
# Positions
-/

namespace PathIndex

/-- The digits from the first that is no zero, and a single zero if there is none. -/
def withoutLeadingZeros (digits : List Char) : List Char :=
  match digits.dropWhile (fun c => c == '0') with
  | [] => ['0']
  | kept => kept

theorem digitChar_of_isDigit {c : Char} (hc : c.isDigit = true) :
    c.toNat - '0'.toNat < 10 ∧ Nat.digitChar (c.toNat - '0'.toNat) = c := by
  have hrange : '0'.toNat <= c.toNat ∧ c.toNat <= '0'.toNat + 9 := by
    simpa [Char.isDigit, UInt32.le_iff_toNat_le] using hc
  have hsmall : c.toNat - '0'.toNat < 10 := by omega
  have hall : forall digit : Fin 10, Nat.digitChar digit = Char.ofNat ('0'.toNat + digit) := by
    decide
  refine ⟨hsmall, ?_⟩
  rw [hall ⟨_, hsmall⟩, Nat.add_sub_cancel' hrange.1, Char.ofNat_toNat]

theorem toDigits_of_first_ne_zero {first : Char} {rest : List Char} (hfirst : first ≠ '0')
    (hdigits : forall c, c ∈ first :: rest -> c.isDigit = true) :
    Nat.toDigits 10 (Nat.ofDigitChars 10 (first :: rest) 0) = first :: rest := by
  induction rest using List.reverseRecOn with
  | nil =>
      rcases digitChar_of_isDigit (hdigits first List.mem_cons_self) with ⟨hsmall, hchar⟩
      rw [Nat.ofDigitChars_cons, Nat.ofDigitChars_nil, Nat.mul_zero, Nat.zero_add,
        Nat.toDigits_of_lt_base hsmall, hchar]
  | append_singleton rest last ih =>
      have hfront := ih (fun c hc => hdigits c (by
        rw [← List.cons_append]
        exact List.mem_append_left _ hc))
      rcases digitChar_of_isDigit (hdigits last (by simp)) with ⟨hsmall, hchar⟩
      have hpos : 0 < Nat.ofDigitChars 10 (first :: rest) 0 := by
        apply Nat.pos_of_ne_zero
        intro hzero
        rw [hzero, Nat.toDigits_zero] at hfront
        exact hfirst (List.cons.inj hfront).1.symm
      rw [← List.cons_append, Nat.ofDigitChars_append, Nat.ofDigitChars_cons, Nat.ofDigitChars_nil,
        ← Nat.toDigits_append_toDigits (by decide) hpos hsmall, hfront,
        Nat.toDigits_of_lt_base hsmall, hchar]

theorem toDigits_ofDigitChars {digits : List Char}
    (hdigits : forall c, c ∈ digits -> c.isDigit = true) :
    Nat.toDigits 10 (Nat.ofDigitChars 10 digits 0) = withoutLeadingZeros digits := by
  have hzeros : digits.takeWhile (fun c => c == '0') =
      List.replicate (digits.takeWhile (fun c => c == '0')).length '0' := by
    apply List.eq_replicate_of_mem
    intro c hc
    simpa using List.mem_takeWhile_imp hc
  have hvalue : Nat.ofDigitChars 10 digits 0 =
      Nat.ofDigitChars 10 (digits.dropWhile (fun c => c == '0')) 0 := by
    conv => lhs; rw [← List.takeWhile_append_dropWhile (p := fun c => c == '0') (l := digits)]
    rw [Nat.ofDigitChars_append, hzeros, Nat.ofDigitChars_replicate_zero, Nat.mul_zero]
  rw [hvalue, withoutLeadingZeros]
  cases hkept : digits.dropWhile (fun c => c == '0') with
  | nil => exact Nat.toDigits_zero 10
  | cons first rest =>
      have hfirst : first ≠ '0' := by
        have hhead : (digits.dropWhile (fun c => c == '0')).head? = some first := by
          rw [hkept]
          rfl
        simpa using Text.head?_dropWhile hhead
      apply toDigits_of_first_ne_zero hfirst
      intro c hc
      exact hdigits c (List.dropWhile_subset _ (hkept ▸ hc))

theorem toList_written_element (position : Nat) :
    (written (.element position)).toList = Nat.toDigits 10 position := by
  rw [written, Nat.toString_eq_ofList_toDigits, String.toList_ofList]

theorem spells_written {inner : List Char} {index : PathIndex} (h : Spells inner index) :
    Spells index.written.toList index := by
  cases h with
  | positional => exact .positional
  | allPositional => exact .allPositional
  | element hnonempty hdigits hbound =>
      rw [toList_written_element]
      have hdigit : forall c, c ∈ Nat.toDigits 10 (Nat.ofDigitChars 10 inner 0) ->
          c.isDigit = true := by
        intro c hc
        exact Nat.isDigit_of_mem_toDigits (by decide) (by decide) hc
      have hspells := Spells.element Nat.toDigits_ne_nil hdigit
        (by rw [Nat.ofDigitChars_ten_toDigits]; exact hbound)
      rw [Nat.ofDigitChars_ten_toDigits] at hspells
      exact hspells
  | filtered hfirst hrest =>
      rw [written, String.toList_ofList]
      exact .filtered hfirst hrest

end PathIndex

/-!
# Segments
-/

namespace PathSegment

def HasPosition (piece : List Char) : Prop :=
  exists name digits, piece = name ++ '[' :: (digits ++ [']']) ∧ '[' ∉ name ∧ digits ≠ []
    ∧ forall c, c ∈ digits -> c.isDigit = true

/-- The second piece is the first one, but for the leading zeros of an index of digits. -/
inductive Tidies : List Char -> List Char -> Prop
  | asWritten {piece : List Char} (h : ¬ HasPosition piece) : Tidies piece piece
  | position {name digits : List Char} (hname : '[' ∉ name) (hnonempty : digits ≠ [])
      (hdigits : forall c, c ∈ digits -> c.isDigit = true) :
      Tidies (name ++ '[' :: (digits ++ [']']))
        (name ++ '[' :: (PathIndex.withoutLeadingZeros digits ++ [']']))

theorem toList_display_plain (name : List Char) :
    (display ⟨String.ofList name, none⟩).toList = name := by
  rw [display, String.toList_ofList]

theorem toList_display_indexed (name : List Char) (index : PathIndex) :
    (display ⟨String.ofList name, some index⟩).toList =
      name ++ '[' :: (index.written.toList ++ [']']) := by
  simp [display, String.toList_append]

theorem not_hasPosition_plain {name : List Char} (hname : '[' ∉ name) : ¬ HasPosition name := by
  rintro ⟨name', digits, rfl, _⟩
  simp at hname

theorem not_hasPosition_indexed {name inner : List Char} (hname : '[' ∉ name)
    (h : inner = [] ∨ exists c, c ∈ inner ∧ c.isDigit = false) :
    ¬ HasPosition (name ++ '[' :: (inner ++ [']'])) := by
  rintro ⟨name', digits, hpiece, hname', hnonempty, hdigits⟩
  have hinner : inner = digits :=
    List.append_cancel_right (split_unique hname hname' hpiece).2
  subst hinner
  rcases h with hnone | ⟨c, hc, hdigit⟩
  · exact hnonempty hnone
  · rw [hdigits c hc] at hdigit
    cases hdigit

theorem tidies_display {piece : List Char} {segment : PathSegment} (h : Spells piece segment) :
    Tidies piece segment.display.toList := by
  cases h with
  | plain hname =>
      rw [toList_display_plain]
      exact .asWritten (not_hasPosition_plain (not_mem_of_isName hname))
  | indexed hname hindex =>
      rw [toList_display_indexed]
      have hname := not_mem_of_isName hname
      cases hindex with
      | positional =>
          exact .asWritten (not_hasPosition_indexed hname (Or.inr ⟨'$', by simp, by decide⟩))
      | allPositional => exact .asWritten (not_hasPosition_indexed hname (Or.inl rfl))
      | element hnonempty hdigits hbound =>
          rw [PathIndex.toList_written_element, PathIndex.toDigits_ofDigitChars hdigits]
          exact .position hname hnonempty hdigits
      | filtered hfirst hrest =>
          rw [PathIndex.written, String.toList_ofList]
          exact .asWritten (not_hasPosition_indexed hname
            (Or.inr ⟨_, List.mem_cons_self, PathIndex.not_isDigit_of_isLower hfirst⟩))

theorem spells_display {piece : List Char} {segment : PathSegment} (h : Spells piece segment) :
    Spells segment.display.toList segment := by
  cases h with
  | plain hname =>
      rw [toList_display_plain]
      exact .plain hname
  | indexed hname hindex =>
      rw [toList_display_indexed]
      exact .indexed hname (PathIndex.spells_written hindex)

theorem isTight_of_spells {piece : List Char} {segment : PathSegment} (h : Spells piece segment) :
    Text.IsTight piece := by
  cases h with
  | plain hname =>
      refine ⟨hname.1, ?_, ?_⟩
      · intro c hc
        exact (hname.2 c (List.mem_of_mem_head? hc)).1
      · intro c hc
        exact (hname.2 c (List.mem_of_mem_getLast? hc)).1
  | indexed hname hindex =>
      refine Text.isTight_append hname.1 (List.cons_ne_nil _ _) ?_ ?_
      · intro c hc
        exact (hname.2 c (List.mem_of_mem_head? hc)).1
      · intro c hc
        have hbracket : c = ']' := by
          rw [← List.cons_append, List.getLast?_concat] at hc
          exact (Option.some.inj hc).symm
        rw [hbracket]
        decide

theorem dot_not_mem_tidied {piece shown : List Char} (hdot : '.' ∉ piece)
    (h : Tidies piece shown) : '.' ∉ shown := by
  cases h with
  | asWritten _ => exact hdot
  | position hname hnonempty hdigits =>
      rename_i name digits
      have hzeros : '.' ∉ PathIndex.withoutLeadingZeros digits := by
        rw [← PathIndex.toDigits_ofDigitChars hdigits]
        intro hmem
        have hdigit := Nat.isDigit_of_mem_toDigits (by decide) (by decide) hmem
        exact absurd hdigit (by decide)
      simp only [List.mem_append, List.mem_cons, not_or] at hdot ⊢
      exact ⟨hdot.1, hdot.2.1, hzeros, hdot.2.2.2⟩

end PathSegment

/-!
# Paths
-/

namespace TargetPath

theorem toList_display (path : TargetPath) :
    path.display.toList =
      ['.'].intercalate (path.segments.map (fun segment => segment.display.toList)) := by
  have hdot : ".".toList = ['.'] := by decide
  rw [display, String.toList_intercalate, List.map_map, hdot]
  rfl

theorem exists_of_parse_eq_ok {text : String} {path : TargetPath} (h : parse text = .ok path) :
    exists trimmed pieces, Text.IsTrimming text.toList trimmed ∧ trimmed ≠ []
      ∧ Text.IsSplit '.' trimmed pieces
      ∧ List.Forall₂ PathSegment.Spells pieces path.segments := by
  cases (parse_eq_iff_outcome text (.ok path)).mp h with
  | path htrimmed hne hsplit hsegments => exact ⟨_, _, htrimmed, hne, hsplit, hsegments⟩

theorem forall₂_spells_display {pieces : List (List Char)} {segments : List PathSegment}
    (h : List.Forall₂ PathSegment.Spells pieces segments) :
    List.Forall₂ PathSegment.Spells (segments.map (fun segment => segment.display.toList))
      segments := by
  induction h with
  | nil => exact .nil
  | cons hpiece _hmore ih => exact .cons (PathSegment.spells_display hpiece) ih

theorem forall₂_tidies_display {pieces : List (List Char)} {segments : List PathSegment}
    (h : List.Forall₂ PathSegment.Spells pieces segments) :
    List.Forall₂ PathSegment.Tidies pieces
      (segments.map (fun segment => segment.display.toList)) := by
  induction h with
  | nil => exact .nil
  | cons hpiece _hmore ih => exact .cons (PathSegment.tidies_display hpiece) ih

theorem exists_piece {pieces : List (List Char)} {segments : List PathSegment}
    (h : List.Forall₂ PathSegment.Spells pieces segments) {segment : PathSegment}
    (hmem : segment ∈ segments) :
    exists piece, piece ∈ pieces ∧ PathSegment.Spells piece segment := by
  induction h with
  | nil => cases hmem
  | cons hpiece _hmore ih =>
      rcases List.mem_cons.mp hmem with rfl | hmem
      · exact ⟨_, List.mem_cons_self, hpiece⟩
      · rcases ih hmem with ⟨piece, hmore, hspells⟩
        exact ⟨piece, List.mem_cons_of_mem _ hmore, hspells⟩

theorem outcome_display {trimmed : List Char} {pieces : List (List Char)} {path : TargetPath}
    (hsplit : Text.IsSplit '.' trimmed pieces)
    (h : List.Forall₂ PathSegment.Spells pieces path.segments) :
    Outcome path.display (.ok path) := by
  let shown := path.segments.map (fun segment => segment.display.toList)
  have hne : shown ≠ [] := by
    intro hnone
    rw [List.map_eq_nil_iff.mp hnone, List.forall₂_nil_right_iff] at h
    exact hsplit.nonempty h
  have hfree : forall part, part ∈ shown -> '.' ∉ part := by
    intro part hpart
    rcases List.mem_map.mp hpart with ⟨segment, hsegment, rfl⟩
    rcases exists_piece h hsegment with ⟨piece, hpiece, hspells⟩
    exact PathSegment.dot_not_mem_tidied (hsplit.free piece hpiece)
      (PathSegment.tidies_display hspells)
  have htight : Text.IsTight path.display.toList := by
    rw [toList_display]
    apply Text.isTight_intercalate hne
    intro part hpart
    rcases List.mem_map.mp hpart with ⟨segment, hsegment, rfl⟩
    rcases exists_piece h hsegment with ⟨piece, _hpiece, hspells⟩
    exact PathSegment.isTight_of_spells (PathSegment.spells_display hspells)
  exact .path (Text.isTrimming_self htight) htight.1 ⟨hne, hfree, (toList_display path).symm⟩
    (forall₂_spells_display h)

theorem parse_display {text : String} {path : TargetPath} (h : parse text = .ok path) :
    parse path.display = .ok path := by
  rcases exists_of_parse_eq_ok h with ⟨trimmed, pieces, _htrimmed, _hne, hsplit, hsegments⟩
  exact parse_of_outcome (outcome_display hsplit hsegments)

/-- The second text is what is left of the first one without the white space around it, but for
the leading zeros of indexes of digits. -/
def Normalizes (text shown : List Char) : Prop :=
  exists trimmed pieces parts, Text.IsTrimming text trimmed ∧ Text.IsSplit '.' trimmed pieces
    ∧ List.Forall₂ PathSegment.Tidies pieces parts ∧ shown = ['.'].intercalate parts

/-- A path that was read is written as the text says, and its text gives it back; so no other
path that was read is written alike. -/
theorem display_round_trip {text : String} {path : TargetPath} (h : parse text = .ok path) :
    parse path.display = .ok path ∧ Normalizes text.toList path.display.toList
      ∧ forall otherText other, parse otherText = .ok other ->
          other.display = path.display -> other = path := by
  refine ⟨parse_display h, ?_, ?_⟩
  · rcases exists_of_parse_eq_ok h with ⟨trimmed, pieces, htrimmed, _hne, hsplit, hsegments⟩
    exact ⟨trimmed, pieces, _, htrimmed, hsplit, forall₂_tidies_display hsegments,
      toList_display path⟩
  · intro otherText other hother hdisplay
    have hback := parse_display hother
    rw [hdisplay, parse_display h] at hback
    exact (Except.ok.inj hback).symm

def everyIndex : TargetPath where
  segments :=
    [⟨"a", some .positional⟩, ⟨"b", some (.element 7)⟩, ⟨"c", some .allPositional⟩,
      ⟨"d", some (.filtered "hit")⟩, ⟨"e", some (.element 0)⟩]

theorem display_round_trip_everyIndex :
    parse " a[$].b[007].c[].d[hit].e[00] " = .ok everyIndex
      ∧ parse "a[$].b[7].c[].d[hit].e[0]" = .ok everyIndex
      ∧ Normalizes " a[$].b[007].c[].d[hit].e[00] ".toList "a[$].b[7].c[].d[hit].e[0]".toList
      ∧ forall otherText other, parse otherText = .ok other ->
          other.display = "a[$].b[7].c[].d[hit].e[0]" -> other = everyIndex := by
  have hread : parse " a[$].b[007].c[].d[hit].e[00] " = .ok everyIndex := by
    rfl
  have hshown : everyIndex.display = "a[$].b[7].c[].d[hit].e[0]" := by
    decide
  have hround := display_round_trip hread
  rw [hshown] at hround
  exact ⟨hread, hround⟩

end TargetPath
end PartialUpdate
