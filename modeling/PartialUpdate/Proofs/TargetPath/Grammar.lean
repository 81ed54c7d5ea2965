import PartialUpdate.TargetPath
import PartialUpdate.Proofs.Except
import PartialUpdate.Proofs.Text

/-!
# The grammar of target paths

A trimmed text is a path when each piece between its dots is a member name, alone or with an
index in brackets behind it.  Reading a text accepts these paths and no others, and fails at the
first piece that is no segment.
-/

namespace PartialUpdate

/-!
# Indexes
-/

namespace PathIndex

/-- What stands between the brackets, and the index that it spells. -/
inductive Spells : List Char -> PathIndex -> Prop
  | positional : Spells ['$'] .positional
  | allPositional : Spells [] .allPositional
  | element {digits : List Char} (hnonempty : digits ≠ [])
      (hdigits : forall c, c ∈ digits -> c.isDigit = true)
      (hbound : Nat.ofDigitChars 10 digits 0 <= Nat.pow 2 64 - 1) :
      Spells digits (.element (Nat.ofDigitChars 10 digits 0))
  | filtered {first : Char} {rest : List Char} (hfirst : first.isLower = true)
      (hrest : forall c, c ∈ rest -> c.isAlphanum = true ∨ c = '_') :
      Spells (first :: rest) (.filtered (String.ofList (first :: rest)))

theorem digitsValue_eq (digits : List Char) : digitsValue digits = Nat.ofDigitChars 10 digits 0 := by
  rw [digitsValue, Nat.ofDigitChars_eq_foldl]
  simp only [Nat.mul_comm]

theorem isLowerLetter_eq (c : Char) : isLowerLetter c = c.isLower := by
  rfl

theorem isNameChar_iff {c : Char} : isNameChar c = true ↔ c.isAlphanum = true ∨ c = '_' := by
  simp [isNameChar, Char.isAlphanum]

theorem isFilterName_cons {first : Char} {rest : List Char} :
    isFilterName (first :: rest) = true ↔
      first.isLower = true ∧ forall c, c ∈ rest -> c.isAlphanum = true ∨ c = '_' := by
  simp only [isFilterName, Bool.and_eq_true, isLowerLetter_eq, List.all_eq_true, isNameChar_iff]

theorem not_isDigit_of_isLower {c : Char} (h : c.isLower = true) : c.isDigit = false := by
  rw [← isLowerLetter_eq] at h
  simp only [isLowerLetter, Char.isDigit, Bool.and_eq_true, decide_eq_true_eq, ge_iff_le,
    Char.le_def, UInt32.le_iff_toNat_le, Bool.and_eq_false_iff, decide_eq_false_iff_not] at h ⊢
  have hletter : 'a'.val.toNat = 97 := rfl
  have hnine : '9'.val.toNat = 57 := rfl
  omega

theorem parse?_digits {digits : List Char} (hnonempty : digits ≠ [])
    (hdigits : forall c, c ∈ digits -> c.isDigit = true) :
    parse? digits =
      if Nat.ofDigitChars 10 digits 0 < positionBound then
        some (.element (Nat.ofDigitChars 10 digits 0))
      else none := by
  have hdollar : digits ≠ ['$'] := by
    rintro rfl
    exact absurd (hdigits '$' List.mem_cons_self) (by decide)
  have hempty : digits.isEmpty = false := by
    simpa using hnonempty
  simp only [parse?, if_neg hdollar, hempty, Bool.false_eq_true, if_false,
    List.all_eq_true.mpr hdigits, if_true, digitsValue_eq]

theorem parse?_name {first : Char} {rest : List Char} (hfirst : first.isLower = true)
    (hrest : forall c, c ∈ rest -> c.isAlphanum = true ∨ c = '_') :
    parse? (first :: rest) = some (.filtered (String.ofList (first :: rest))) := by
  have hdollar : first :: rest ≠ ['$'] := by
    intro h
    rw [(List.cons.inj h).1] at hfirst
    exact absurd hfirst (by decide)
  have hdigits : (first :: rest).all Char.isDigit = false := by
    rw [List.all_cons, not_isDigit_of_isLower hfirst, Bool.false_and]
  simp only [parse?, if_neg hdollar, List.isEmpty_cons, hdigits, Bool.false_eq_true, if_false,
    isFilterName_cons.mpr ⟨hfirst, hrest⟩, if_true]

theorem spells_of_parse? {inner : List Char} {index : PathIndex}
    (h : parse? inner = some index) : Spells inner index := by
  by_cases hdollar : inner = ['$']
  · rw [hdollar] at h ⊢
    cases h
    exact .positional
  · cases inner with
    | nil =>
        cases h
        exact .allPositional
    | cons first rest =>
        by_cases hdigits : forall c, c ∈ first :: rest -> c.isDigit = true
        · rw [parse?_digits (List.cons_ne_nil first rest) hdigits] at h
          split at h
          · rename_i hbound
            cases h
            exact .element (List.cons_ne_nil first rest) hdigits (Nat.le_sub_one_of_lt hbound)
          · cases h
        · have hall : ¬ (first :: rest).all Char.isDigit = true := by
            rw [List.all_eq_true]
            exact hdigits
          simp only [parse?, if_neg hdollar, List.isEmpty_cons, Bool.false_eq_true, if_false,
            if_neg hall] at h
          split at h
          · rename_i hname
            cases h
            exact .filtered (isFilterName_cons.mp hname).1 (isFilterName_cons.mp hname).2
          · cases h

theorem parse?_eq_some_iff {inner : List Char} {index : PathIndex} :
    parse? inner = some index ↔ Spells inner index := by
  constructor
  · exact spells_of_parse?
  · intro h
    cases h with
    | positional => rfl
    | allPositional => rfl
    | element hnonempty hdigits hbound =>
        have hbound : Nat.ofDigitChars 10 inner 0 < positionBound :=
          Nat.lt_of_le_sub_one (by decide) hbound
        rw [parse?_digits hnonempty hdigits, if_pos hbound]
    | filtered hfirst hrest => exact parse?_name hfirst hrest

end PathIndex

/-!
# Segments
-/

namespace PathSegment

/-- One or more characters, none of them white space, a bracket or a dollar sign. -/
def IsName (name : List Char) : Prop :=
  name ≠ [] ∧ forall c, c ∈ name ->
    Text.isBlank c = false ∧ c ≠ '[' ∧ c ≠ ']' ∧ c ≠ '$'

inductive Spells : List Char -> PathSegment -> Prop
  | plain {name : List Char} (hname : IsName name) :
      Spells name ⟨String.ofList name, none⟩
  | indexed {name inner : List Char} {index : PathIndex} (hname : IsName name)
      (hindex : PathIndex.Spells inner index) :
      Spells (name ++ '[' :: (inner ++ [']'])) ⟨String.ofList name, some index⟩

def ClosesIndex (piece : List Char) : Prop :=
  exists name inner index, piece = name ++ '[' :: (inner ++ [']']) ∧ '[' ∉ name
    ∧ PathIndex.Spells inner index

inductive Fails : List Char -> PathError -> Prop
  | index {piece : List Char} (hopen : '[' ∈ piece) (hclosed : ¬ ClosesIndex piece) :
      Fails piece (.invalidIndex (String.ofList piece))
  | segment {piece : List Char} (hclosed : '[' ∈ piece -> ClosesIndex piece)
      (hnone : forall segment, ¬ Spells piece segment) :
      Fails piece (.invalidSegment (String.ofList piece))

theorem not_mem_of_isName {name : List Char} (hname : IsName name) : '[' ∉ name := by
  intro hmem
  exact (hname.2 '[' hmem).2.1 rfl

theorem isMemberName_iff {name : List Char} (hdot : '.' ∉ name) :
    isMemberName name = true ↔ IsName name := by
  have hchar : forall c, c ∈ name ->
      ((!Text.isBlank c && !isReserved c) = true ↔
        Text.isBlank c = false ∧ c ≠ '[' ∧ c ≠ ']' ∧ c ≠ '$') := by
    intro c hc
    have hne : c ≠ '.' := fun h => hdot (h ▸ hc)
    simp [isReserved, hne, and_assoc]
  rw [isMemberName, Bool.and_eq_true, List.all_eq_true, IsName]
  constructor
  · rintro ⟨hnonempty, hall⟩
    exact ⟨by simpa using hnonempty, fun c hc => (hchar c hc).mp (hall c hc)⟩
  · rintro ⟨hnonempty, hall⟩
    exact ⟨by simpa using hnonempty, fun c hc => (hchar c hc).mpr (hall c hc)⟩

theorem splitIndex_of_not_mem {piece : List Char} (h : '[' ∉ piece) :
    splitIndex piece = (piece, none) := by
  have hall : forall c, c ∈ piece -> (c != '[') = true := by
    intro c hc
    have hne : c ≠ '[' := fun heq => h (heq ▸ hc)
    simpa using hne
  rw [splitIndex, List.takeWhile_eq_self_iff.mpr hall, List.dropWhile_eq_nil_iff.mpr hall]
  rfl

theorem splitIndex_append {name : List Char} (rest : List Char) (h : '[' ∉ name) :
    splitIndex (name ++ '[' :: rest) = (name, some rest) := by
  have hall : forall c, c ∈ name -> (c != '[') = true := by
    intro c hc
    have hne : c ≠ '[' := fun heq => h (heq ▸ hc)
    simpa using hne
  rw [splitIndex, List.takeWhile_append_of_pos hall, List.dropWhile_append_of_pos hall]
  simp

theorem closed?_eq_some_iff {text inner : List Char} :
    closed? text = some inner ↔ text = inner ++ [']'] := by
  unfold closed?
  constructor
  · intro h
    split at h
    · rename_i hlast
      cases h
      exact (List.dropLast_append_getLast? ']' hlast).symm
    · cases h
  · rintro rfl
    simp

def index? (rest : List Char) : Option PathIndex :=
  (closed? rest).bind PathIndex.parse?

theorem index?_eq_some_iff {rest : List Char} {index : PathIndex} :
    index? rest = some index ↔ exists inner, rest = inner ++ [']'] ∧ PathIndex.Spells inner index := by
  simp only [index?, Option.bind_eq_some_iff, closed?_eq_some_iff, PathIndex.parse?_eq_some_iff]

theorem parse_plain {piece : List Char} (h : '[' ∉ piece) :
    parse piece =
      if isMemberName piece then .ok ⟨String.ofList piece, none⟩
      else .error (.invalidSegment (String.ofList piece)) := by
  rw [parse, splitIndex_of_not_mem h]

theorem parse_indexed {name rest : List Char} (h : '[' ∉ name) :
    parse (name ++ '[' :: rest) =
      match index? rest with
      | some index =>
          if isMemberName name then .ok ⟨String.ofList name, some index⟩
          else .error (.invalidSegment (String.ofList (name ++ '[' :: rest)))
      | none => .error (.invalidIndex (String.ofList (name ++ '[' :: rest))) := by
  rw [parse, splitIndex_append rest h]
  rfl

theorem split_unique {name name' rest rest' : List Char} (hname : '[' ∉ name)
    (hname' : '[' ∉ name') (h : name ++ '[' :: rest = name' ++ '[' :: rest') :
    name = name' ∧ rest = rest' := by
  have hsplit := congrArg splitIndex h
  rw [splitIndex_append rest hname, splitIndex_append rest' hname'] at hsplit
  exact ⟨congrArg Prod.fst hsplit, Option.some.inj (congrArg Prod.snd hsplit)⟩

theorem closesIndex_iff {name rest : List Char} (hname : '[' ∉ name) :
    ClosesIndex (name ++ '[' :: rest) ↔ exists index, index? rest = some index := by
  constructor
  · rintro ⟨name', inner, index, hpiece, hname', hindex⟩
    rcases split_unique hname hname' hpiece with ⟨_, hrest⟩
    exact ⟨index, index?_eq_some_iff.mpr ⟨inner, hrest, hindex⟩⟩
  · rintro ⟨index, hindex⟩
    rcases index?_eq_some_iff.mp hindex with ⟨inner, hrest, hspells⟩
    exact ⟨name, inner, index, by rw [hrest], hname, hspells⟩

theorem spells_plain_iff {piece : List Char} {segment : PathSegment} (h : '[' ∉ piece) :
    Spells piece segment ↔ IsName piece ∧ segment = ⟨String.ofList piece, none⟩ := by
  constructor
  · intro hspells
    cases hspells with
    | plain hname => exact ⟨hname, rfl⟩
    | indexed hname hindex => exact absurd (by simp) h
  · rintro ⟨hname, rfl⟩
    exact .plain hname

theorem spells_indexed_iff {name rest : List Char} {segment : PathSegment} (hname : '[' ∉ name) :
    Spells (name ++ '[' :: rest) segment ↔ exists index, index? rest = some index
      ∧ IsName name ∧ segment = ⟨String.ofList name, some index⟩ := by
  constructor
  · intro hspells
    generalize hpiece : name ++ '[' :: rest = piece at hspells
    cases hspells with
    | plain hplain =>
        apply absurd _ (not_mem_of_isName hplain)
        simp [← hpiece]
    | indexed hname' hindex =>
        rcases split_unique hname (not_mem_of_isName hname') hpiece with ⟨rfl, hrest⟩
        exact ⟨_, index?_eq_some_iff.mpr ⟨_, hrest, hindex⟩, hname', rfl⟩
  · rintro ⟨index, hindex, hname, rfl⟩
    rcases index?_eq_some_iff.mp hindex with ⟨inner, rfl, hspells⟩
    exact .indexed hname hspells

theorem parse_eq_ok_iff {piece : List Char} {segment : PathSegment} (hdot : '.' ∉ piece) :
    parse piece = .ok segment ↔ Spells piece segment := by
  by_cases hopen : '[' ∈ piece
  · rcases List.eq_append_cons_of_mem hopen with ⟨name, rest, rfl, hname⟩
    have hdot : '.' ∉ name := fun h => hdot (List.mem_append_left _ h)
    rw [parse_indexed hname, spells_indexed_iff hname]
    cases hindex : index? rest with
    | none => simp
    | some index =>
        simp only [guarded_eq_ok_iff, isMemberName_iff hdot, Option.some.injEq, exists_eq_left']
  · rw [parse_plain hopen, spells_plain_iff hopen, guarded_eq_ok_iff, isMemberName_iff hdot]

/-!
# Pieces that are no segments
-/

theorem closesIndex_of_spells {piece : List Char} {segment : PathSegment}
    (h : Spells piece segment) (hopen : '[' ∈ piece) : ClosesIndex piece := by
  cases h with
  | plain hname => exact absurd hopen (not_mem_of_isName hname)
  | indexed hname hindex => exact ⟨_, _, _, rfl, not_mem_of_isName hname, hindex⟩

theorem Fails.unique {piece : List Char} {error other : PathError} (h : Fails piece error)
    (hother : Fails piece other) : error = other := by
  cases h with
  | index hopen hclosed =>
      cases hother with
      | index _ _ => rfl
      | segment hclosed' _ => exact absurd (hclosed' hopen) hclosed
  | segment hclosed hnone =>
      cases hother with
      | index hopen hclosed' => exact absurd (hclosed hopen) hclosed'
      | segment _ _ => rfl

theorem Fails.not_spells {piece : List Char} {error : PathError} (h : Fails piece error)
    (segment : PathSegment) : ¬ Spells piece segment := by
  intro hspells
  cases h with
  | index hopen hclosed => exact hclosed (closesIndex_of_spells hspells hopen)
  | segment _ hnone => exact hnone segment hspells

theorem fails_of_parse {piece : List Char} {error : PathError} (hdot : '.' ∉ piece)
    (h : parse piece = .error error) : Fails piece error := by
  have hnone : forall segment, ¬ Spells piece segment := by
    intro segment hspells
    rw [(parse_eq_ok_iff hdot).mpr hspells] at h
    cases h
  by_cases hopen : '[' ∈ piece
  · rcases List.eq_append_cons_of_mem hopen with ⟨name, rest, rfl, hname⟩
    rw [parse_indexed hname] at h
    cases hindex : index? rest with
    | none =>
        rw [hindex] at h
        cases h
        refine .index hopen ?_
        rw [closesIndex_iff hname, hindex]
        simp
    | some index =>
        rw [hindex] at h
        simp only at h
        split at h
        · cases h
        · cases h
          exact .segment (fun _ => (closesIndex_iff hname).mpr ⟨index, hindex⟩) hnone
  · rw [parse_plain hopen] at h
    split at h
    · cases h
    · cases h
      exact .segment (fun hmem => absurd hmem hopen) hnone

theorem parse_eq_error_iff {piece : List Char} {error : PathError} (hdot : '.' ∉ piece) :
    parse piece = .error error ↔ Fails piece error := by
  constructor
  · exact fails_of_parse hdot
  · intro hfails
    cases hparse : parse piece with
    | ok segment => exact absurd ((parse_eq_ok_iff hdot).mp hparse) (hfails.not_spells segment)
    | error other => rw [hfails.unique (fails_of_parse hdot hparse)]

end PathSegment

/-!
# Paths
-/

namespace TargetPath

/-- What reading a text comes to: nothing but white space is no path, and of the pieces between
the dots the first that is no segment decides. -/
inductive Outcome (text : String) : Except PathError TargetPath -> Prop
  | empty (htrimmed : Text.IsTrimming text.toList []) : Outcome text (.error .empty)
  | path {trimmed : List Char} {pieces : List (List Char)} {segments : List PathSegment}
      (htrimmed : Text.IsTrimming text.toList trimmed) (hne : trimmed ≠ [])
      (hsplit : Text.IsSplit '.' trimmed pieces)
      (hsegments : List.Forall₂ PathSegment.Spells pieces segments) :
      Outcome text (.ok ⟨segments⟩)
  | failure {trimmed piece : List Char} {before after : List (List Char)} {error : PathError}
      (htrimmed : Text.IsTrimming text.toList trimmed) (hne : trimmed ≠ [])
      (hsplit : Text.IsSplit '.' trimmed (before ++ piece :: after))
      (hbefore : forall other, other ∈ before -> exists segment, PathSegment.Spells other segment)
      (hpiece : PathSegment.Fails piece error) : Outcome text (.error error)

theorem parse_of_blank {text : String} (h : Text.trim text.toList = []) :
    parse text = .error .empty := by
  rw [parse, h]
  rfl

theorem parse_of_trimmed {text : String} (h : Text.trim text.toList ≠ []) :
    parse text =
      ((Text.pieces '.' (Text.trim text.toList)).mapM PathSegment.parse).map TargetPath.mk := by
  have hne : (Text.trim text.toList).isEmpty = false := by
    simpa using h
  simp only [parse, hne, Bool.false_eq_true, if_false]
  cases (Text.pieces '.' (Text.trim text.toList)).mapM PathSegment.parse with
  | error e => rfl
  | ok segments => rfl

theorem forall₂_parse_iff {pieces : List (List Char)} {segments : List PathSegment}
    (hfree : forall piece, piece ∈ pieces -> '.' ∉ piece) :
    List.Forall₂ (fun piece segment => PathSegment.parse piece = .ok segment) pieces segments ↔
      List.Forall₂ PathSegment.Spells pieces segments := by
  induction pieces generalizing segments with
  | nil => simp
  | cons piece more ih =>
      have hpiece := hfree piece List.mem_cons_self
      cases segments with
      | nil => simp
      | cons segment segments =>
          have hmore :
              List.Forall₂ (fun piece segment => PathSegment.parse piece = .ok segment)
                  more segments ↔ List.Forall₂ PathSegment.Spells more segments :=
            ih (fun other hother => hfree other (List.mem_cons_of_mem _ hother))
          rw [List.forall₂_cons, List.forall₂_cons, PathSegment.parse_eq_ok_iff hpiece]
          exact and_congr_right (fun _ => hmore)

theorem outcome_parse (text : String) : Outcome text (parse text) := by
  have htrimmed := Text.trim_isTrimming text.toList
  by_cases hne : Text.trim text.toList = []
  · rw [parse_of_blank hne]
    rw [hne] at htrimmed
    exact .empty htrimmed
  · have hsplit := Text.pieces_isSplit '.' (Text.trim text.toList)
    rw [parse_of_trimmed hne]
    cases hpieces : (Text.pieces '.' (Text.trim text.toList)).mapM PathSegment.parse with
    | ok segments =>
        exact .path htrimmed hne hsplit
          ((forall₂_parse_iff hsplit.free).mp (mapM_eq_ok_iff.mp hpieces))
    | error error =>
        rcases mapM_eq_error_iff.mp hpieces with ⟨before, piece, after, heq, hbefore, hpiece⟩
        rw [heq] at hsplit
        refine .failure htrimmed hne hsplit ?_ (PathSegment.fails_of_parse ?_ hpiece)
        · intro other hother
          rcases hbefore other hother with ⟨segment, hsegment⟩
          have hdot := hsplit.free other (List.mem_append_left _ hother)
          exact ⟨segment, (PathSegment.parse_eq_ok_iff hdot).mp hsegment⟩
        · exact hsplit.free piece (List.mem_append_right _ List.mem_cons_self)

theorem parse_of_outcome {text : String} {outcome : Except PathError TargetPath}
    (h : Outcome text outcome) : parse text = outcome := by
  cases h with
  | empty htrimmed => exact parse_of_blank (Text.trim_eq_iff.mpr htrimmed)
  | path htrimmed hne hsplit hsegments =>
      have htrim := Text.trim_eq_iff.mpr htrimmed
      rw [parse_of_trimmed (htrim ▸ hne), htrim, Text.pieces_eq_iff.mpr hsplit,
        mapM_eq_ok_iff.mpr ((forall₂_parse_iff hsplit.free).mpr hsegments)]
      rfl
  | failure htrimmed hne hsplit hbefore hpiece =>
      rename_i trimmed piece before after error
      have htrim := Text.trim_eq_iff.mpr htrimmed
      have hdot := hsplit.free piece (List.mem_append_right _ List.mem_cons_self)
      have hparsed : forall other, other ∈ before ->
          exists segment, PathSegment.parse other = .ok segment := by
        intro other hother
        rcases hbefore other hother with ⟨segment, hsegment⟩
        have hdot := hsplit.free other (List.mem_append_left _ hother)
        exact ⟨segment, (PathSegment.parse_eq_ok_iff hdot).mpr hsegment⟩
      have hfailed := (PathSegment.parse_eq_error_iff hdot).mpr hpiece
      rw [parse_of_trimmed (htrim ▸ hne), htrim, Text.pieces_eq_iff.mpr hsplit,
        mapM_eq_error_iff.mpr ⟨before, piece, after, rfl, hparsed, hfailed⟩]
      rfl

/-- Reading accepts the texts of the grammar, with the segments that they spell, and reports the
leftmost piece that is none of it. -/
theorem parse_eq_iff_outcome (text : String) (outcome : Except PathError TargetPath) :
    parse text = outcome ↔ Outcome text outcome := by
  constructor
  · intro h
    rw [← h]
    exact outcome_parse text
  · exact parse_of_outcome

/-- The index reaches from the first opening bracket to the end of the piece. -/
example : parse "tags[].a[b]c].[x]" = .error (.invalidIndex "a[b]c]") := by
  rfl

/-!
# Single pieces and joined texts
-/

/-- A text without pieces of its own has a single empty one, which is no segment. -/
theorem parse_eq_ok_iff {text : String} {path : TargetPath} :
    parse text = .ok path ↔
      (Text.pieces '.' (Text.trim text.toList)).mapM PathSegment.parse = .ok path.segments := by
  by_cases hblank : Text.trim text.toList = []
  · rw [parse_of_blank hblank, hblank]
    constructor
    · intro h
      cases h
    · intro h
      cases h
  · rw [parse_of_trimmed hblank]
    rcases path with ⟨segments⟩
    cases (Text.pieces '.' (Text.trim text.toList)).mapM PathSegment.parse with
    | error e => simp [Except.map]
    | ok found => simp [Except.map]

theorem segments_ne_nil {text : String} {path : TargetPath} (h : parse text = .ok path) :
    path.segments ≠ [] := by
  intro hnone
  rw [parse_eq_ok_iff, hnone, mapM_eq_ok_iff, List.forall₂_nil_right_iff] at h
  exact Text.pieces_ne_nil _ _ h

theorem parse_joined_eq_ok_iff {outer inner : String} {path : TargetPath}
    (houter : Text.trim outer.toList = outer.toList)
    (hinner : Text.trim inner.toList = inner.toList) :
    parse (outer ++ "." ++ inner) = .ok path ↔
      exists front back, parse outer = .ok front ∧ parse inner = .ok back
        ∧ path.segments = front.segments ++ back.segments := by
  have hjoined : (outer ++ "." ++ inner).toList = outer.toList ++ '.' :: inner.toList := by
    simp
  have hdot : Text.isBlank '.' = false := by decide
  have htrimmed := Text.trim_append_cons houter hinner hdot
  simp only [parse_eq_ok_iff, hjoined, htrimmed, Text.pieces_append_separator, List.mapM_append,
    houter, hinner]
  constructor
  · intro h
    rcases bind_eq_ok h with ⟨front, hfront, hmore⟩
    rcases bind_eq_ok hmore with ⟨back, hback, hdone⟩
    exact ⟨⟨front⟩, ⟨back⟩, hfront, hback, (Except.ok.inj hdone).symm⟩
  · rintro ⟨front, back, hfront, hback, hpath⟩
    rw [hfront, hback, hpath]
    rfl

end TargetPath

end PartialUpdate
