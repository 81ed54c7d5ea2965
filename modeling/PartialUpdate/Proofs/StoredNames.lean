import PartialUpdate.Declaration.Naming
import PartialUpdate.Proofs.Words
import Mathlib.Data.List.Chain

/-!
# Names of stored fields

The rules by which a serialized type names its fields look only at underscores.  The names that
are computed here follow the rules, but for two: a word also ends where a letter and a digit meet,
and an empty word at the start of a name in camel case stands for the one that is not capitalized.
-/

namespace PartialUpdate

inductive CaseRule
  | lower
  | upper
  | pascal
  | camel
  | snake
  | screamingSnake
  | kebab
  | screamingKebab
  deriving DecidableEq

namespace CaseRule

def spelling : CaseRule -> String
  | lower => "lowercase"
  | upper => "UPPERCASE"
  | pascal => "PascalCase"
  | camel => "camelCase"
  | snake => "snake_case"
  | screamingSnake => "SCREAMING_SNAKE_CASE"
  | kebab => "kebab-case"
  | screamingKebab => "SCREAMING-KEBAB-CASE"

/-!
# Parts between underscores
-/

def capitalized : List Char -> List Char
  | [] => []
  | c :: rest => c.toUpper :: rest

def uncapitalized : List Char -> List Char
  | [] => []
  | c :: rest => c.toLower :: rest

def joined (name : List Char) : List Char :=
  (Text.pieces '_' name).flatMap capitalized

/-- All parts, each but the first capitalized; the first one may be empty. -/
def continued (name : List Char) : List Char :=
  match Text.pieces '_' name with
  | [] => []
  | first :: rest => first ++ rest.flatMap capitalized

theorem joined_underscore (rest : List Char) : joined ('_' :: rest) = joined rest := by
  rw [joined, Text.pieces_cons_separator]
  rfl

theorem continued_underscore (rest : List Char) : continued ('_' :: rest) = joined rest := by
  rw [continued, Text.pieces_cons_separator]
  rfl

section Kept

variable {c : Char} (hc : c ≠ '_') (rest : List Char)

include hc

theorem joined_cons : joined (c :: rest) = c.toUpper :: continued rest := by
  cases hpieces : Text.pieces '_' rest with
  | nil => exact absurd hpieces (Text.pieces_ne_nil '_' rest)
  | cons part more =>
      rw [joined, continued, Text.pieces_cons_of_ne hc hpieces, hpieces]
      rfl

theorem continued_cons : continued (c :: rest) = c :: continued rest := by
  cases hpieces : Text.pieces '_' rest with
  | nil => exact absurd hpieces (Text.pieces_ne_nil '_' rest)
  | cons part more =>
      rw [continued, continued, Text.pieces_cons_of_ne hc hpieces, hpieces]
      rfl

end Kept

/-!
# The names by a rule
-/

def prescribed (rule : CaseRule) (name : List Char) : List Char :=
  match rule with
  | lower | snake => name
  | upper | screamingSnake => name.map Char.toUpper
  | pascal => joined name
  | camel => uncapitalized (joined name)
  | kebab => name.map (fun c => if c = '_' then '-' else c)
  | screamingKebab => (name.map (fun c => if c = '_' then '-' else c)).map Char.toUpper

def computed (rule : CaseRule) (name : List Char) : List Char :=
  match rule with
  | pascal => joined (Words.spaced name)
  | camel => continued (Words.spaced name)
  | lower | upper | snake | screamingSnake | kebab | screamingKebab => rule.prescribed name

/-- No letter comes right after a digit. -/
def DigitsLast (name : List Char) : Prop :=
  name.IsChain (fun c next => c.isDigit = true -> next.isLower = false)

instance (name : List Char) : Decidable (DigitsLast name) :=
  inferInstanceAs (Decidable (List.IsChain _ name))

/-- No letter comes first after the underscores with which the name begins. -/
def LeadsIn (name : List Char) : Prop :=
  name.head? = some '_' -> (name.dropWhile (fun c => c == '_')).head?.any Char.isLower = false

instance (name : List Char) : Decidable (LeadsIn name) :=
  inferInstanceAs (Decidable (_ -> _))

def Suits (rule : CaseRule) (name : List Char) : Prop :=
  match rule with
  | pascal => DigitsLast name
  | camel => DigitsLast name ∧ LeadsIn name
  | lower | upper | snake | screamingSnake | kebab | screamingKebab => True

instance (rule : CaseRule) (name : List Char) : Decidable (rule.Suits name) :=
  match rule with
  | pascal => inferInstanceAs (Decidable (DigitsLast name))
  | camel => inferInstanceAs (Decidable (_ ∧ _))
  | lower | upper | snake | screamingSnake | kebab | screamingKebab =>
      inferInstanceAs (Decidable True)

end CaseRule

/-!
# Computed names

In plain names the words are the parts of the spaced name.
-/

namespace Words

theorem flatten_singletons (part : List Char) : (part.map List.singleton).flatten = part := by
  induction part with
  | nil => rfl
  | cons c rest ih =>
      rw [List.map_cons, List.flatten_cons, ih]
      rfl

theorem lowered_of_isPlain {part : List Char} (h : IsPlain part) :
    lowered (part.map List.singleton) = part := by
  rw [lowered, flatten_singletons, CaseMap.lowerText_of_isPlain h]

theorem capitalized_of_isPlain {part : List Char} (h : IsPlain part) :
    capitalized (part.map List.singleton) = CaseRule.capitalized part := by
  cases part with
  | nil => rfl
  | cons c rest =>
      rcases isPlain_cons.mp h with ⟨hc, hrest⟩
      have hupper : CaseMap.upperText [c] = [c.toUpper] :=
        CaseMap.upperText_of_lt (List.forall_mem_singleton.mpr hc.toNat_lt)
      rw [List.map_cons, List.singleton, capitalized, lowered_of_isPlain hrest, hupper]
      rfl

theorem flatMap_capitalized {parts : List (List Char)}
    (h : forall part, part ∈ parts -> IsPlain part) :
    (parts.map (fun part => part.map List.singleton)).flatMap capitalized =
      parts.flatMap CaseRule.capitalized := by
  rw [List.flatMap_map]
  exact List.flatMap_congr (fun part hpart => capitalized_of_isPlain (h part hpart))

variable {name : List Char} (h : IsPlain name)

include h

theorem isPlain_parts : forall part, part ∈ Text.pieces '_' (spaced name) -> IsPlain part :=
  fun _ hpart c hc => isPlain_spaced h c (Text.mem_of_mem_pieces hpart hc)

theorem pascalCase_of_isPlain : pascalCase name = CaseRule.joined (spaced name) := by
  rw [pascalCase, split_of_isPlain h, flatMap_capitalized (isPlain_parts h), CaseRule.joined]

theorem camelCase_of_isPlain : camelCase name = CaseRule.continued (spaced name) := by
  have hparts := isPlain_parts h
  rw [camelCase, split_of_isPlain h, CaseRule.continued]
  cases hpieces : Text.pieces '_' (spaced name) with
  | nil => rfl
  | cons first rest =>
      rw [hpieces] at hparts
      rcases List.forall_mem_cons.mp hparts with ⟨hfirst, hrest⟩
      rw [List.map_cons]
      show lowered _ ++ _ = _
      rw [lowered_of_isPlain hfirst, flatMap_capitalized hrest]

end Words

/-!
# Where the spaced name has the same parts

A part more shows as a capital, and only at a letter: so a digit may follow a letter, and a letter
may not follow a digit.
-/

namespace CaseRule

variable {c : Char} {name rest : List Char}

theorem digitsLast_cons :
    DigitsLast (c :: rest) ↔
      (forall next, rest.head? = some next -> c.isDigit = true -> next.isLower = false)
        ∧ DigitsLast rest :=
  List.isChain_cons

theorem digitsLast_underscore : DigitsLast ('_' :: rest) ↔ DigitsLast rest := by
  rw [digitsLast_cons]
  constructor
  · exact fun h => h.2
  · intro h
    refine ⟨?_, h⟩
    intro next _ hdigit
    cases hdigit

def spacedTail (c : Char) (rest : List Char) : List Char :=
  if rest.head?.any (Words.meets c) then '_' :: Words.spaced rest else Words.spaced rest

theorem spaced_cons : Words.spaced (c :: rest) = c :: spacedTail c rest := by
  rw [Words.spaced, spacedTail]
  split <;> rfl

theorem continued_spacedTail_ne {next : Char} (hnext : IsPlainChar next)
    (hdigit : c.isDigit = true) (hlower : next.isLower = true) :
    continued (spacedTail c (next :: rest)) ≠ continued (next :: rest) := by
  have hletter : next ≠ '_' := by
    intro hunderscore
    rw [hunderscore] at hlower
    cases hlower
  have hcapital : next.toUpper ≠ next := by
    rw [Ne, hnext.toUpper_eq_iff, hlower]
    decide
  have htail : spacedTail c (next :: rest) = '_' :: Words.spaced (next :: rest) :=
    if_pos (by simp [Words.meets, hdigit, hlower])
  rw [htail, continued_underscore, spaced_cons, joined_cons hletter, continued_cons hletter]
  intro heq
  exact hcapital (List.cons.inj heq).1

theorem joined_eq_continued {next : Char} (hnext : IsPlainChar next)
    (hdigit : next.isDigit = true) : joined (next :: rest) = continued (next :: rest) := by
  have hletter : next ≠ '_' := by
    intro hunderscore
    rw [hunderscore] at hdigit
    cases hdigit
  rw [joined_cons hletter, continued_cons hletter,
    hnext.toUpper_eq_iff.mpr (hnext.isLower_of_isDigit hdigit)]

theorem continued_spacedTail_iff (hrest : IsPlain rest)
    (hjoined : joined (Words.spaced rest) = joined rest ↔ DigitsLast rest)
    (hcontinued : continued (Words.spaced rest) = continued rest ↔ DigitsLast rest) :
    continued (spacedTail c rest) = continued rest ↔ DigitsLast (c :: rest) := by
  rw [digitsLast_cons]
  cases rest with
  | nil => simp [spacedTail, Words.spaced, DigitsLast]
  | cons next more =>
      have hnext := (isPlain_cons.mp hrest).1
      by_cases hbroken : c.isDigit = true ∧ next.isLower = true
      · have hne : continued (spacedTail c (next :: more)) ≠ continued (next :: more) :=
          continued_spacedTail_ne hnext hbroken.1 hbroken.2
        simp [hne, hbroken]
      · have hkept : c.isDigit = true -> next.isLower = false := by simpa using hbroken
        have hsame :
            continued (spacedTail c (next :: more)) = continued (next :: more) ↔
              DigitsLast (next :: more) := by
          cases hmeets : Words.meets c next with
          | false =>
              have htail : spacedTail c (next :: more) = Words.spaced (next :: more) :=
                if_neg (by simp [hmeets])
              rw [htail, hcontinued]
          | true =>
              have htail : spacedTail c (next :: more) = '_' :: Words.spaced (next :: more) :=
                if_pos (by simp [hmeets])
              have hdigit : next.isDigit = true := by
                simp only [Words.meets, Bool.or_eq_true, Bool.and_eq_true, hbroken, or_false]
                  at hmeets
                exact hmeets.2
              rw [htail, continued_underscore, ← joined_eq_continued hnext hdigit, hjoined]
        rw [hsame]
        constructor
        · intro hlast
          refine ⟨?_, hlast⟩
          intro other hother
          cases hother
          exact hkept
        · exact fun h => h.2

/-- The parts of a spaced name come out as those of the name unless a letter follows a digit. -/
theorem spaced_iff (h : IsPlain name) :
    (joined (Words.spaced name) = joined name ↔ DigitsLast name)
      ∧ (continued (Words.spaced name) = continued name ↔ DigitsLast name) := by
  induction name with
  | nil => simp [Words.spaced, DigitsLast]
  | cons c rest ih =>
      rcases isPlain_cons.mp h with ⟨_, hrest⟩
      rcases ih hrest with ⟨hjoined, hcontinued⟩
      by_cases hunderscore : c = '_'
      · rw [hunderscore, Words.spaced_underscore, joined_underscore, joined_underscore,
          continued_underscore, continued_underscore, digitsLast_underscore]
        exact ⟨hjoined, hjoined⟩
      · have htail : continued (spacedTail c rest) = continued rest ↔ DigitsLast (c :: rest) :=
          continued_spacedTail_iff hrest hjoined hcontinued
        rw [spaced_cons, joined_cons hunderscore, joined_cons hunderscore,
          continued_cons hunderscore, continued_cons hunderscore, List.cons_inj_right,
          List.cons_inj_right]
        exact ⟨htail, htail⟩

/-- Behind underscores the first word counts as one of the others. -/
theorem joined_spaced_eq_uncapitalized_iff (h : IsPlain name) :
    joined (Words.spaced name) = uncapitalized (joined name) ↔
      DigitsLast name
        ∧ (name.dropWhile (fun c => c == '_')).head?.any Char.isLower = false := by
  induction name with
  | nil => simp [Words.spaced, joined, Text.pieces, capitalized, uncapitalized, DigitsLast]
  | cons c rest ih =>
      rcases isPlain_cons.mp h with ⟨hc, hrest⟩
      by_cases hunderscore : c = '_'
      · rw [hunderscore, Words.spaced_underscore, joined_underscore, joined_underscore,
          digitsLast_underscore]
        exact ih hrest
      · have hparts := (spaced_iff h).2
        rw [spaced_cons, continued_cons hunderscore, continued_cons hunderscore,
          List.cons_inj_right] at hparts
        rw [spaced_cons, joined_cons hunderscore, joined_cons hunderscore, uncapitalized,
          hc.toLower_toUpper, List.cons.injEq, hparts, hc.toUpper_eq_iff]
        simp [hunderscore, and_comm]

theorem computed_camel_iff (h : IsPlain name) :
    computed .camel name = prescribed .camel name ↔ Suits .camel name := by
  show continued (Words.spaced name) = uncapitalized (joined name) ↔
    DigitsLast name ∧ LeadsIn name
  cases name with
  | nil =>
      simp [Words.spaced, joined, continued, Text.pieces, capitalized, uncapitalized, DigitsLast,
        LeadsIn]
  | cons c rest =>
      rcases isPlain_cons.mp h with ⟨hc, hrest⟩
      by_cases hunderscore : c = '_'
      · rw [hunderscore, Words.spaced_underscore, continued_underscore, joined_underscore,
          digitsLast_underscore, joined_spaced_eq_uncapitalized_iff hrest]
        simp [LeadsIn]
      · have hfirst : uncapitalized (joined (c :: rest)) = continued (c :: rest) := by
          rw [joined_cons hunderscore, continued_cons hunderscore, uncapitalized,
            hc.toLower_toUpper]
        rw [hfirst, (spaced_iff h).2]
        simp [LeadsIn, hunderscore]

theorem computed_iff (rule : CaseRule) (h : IsPlain name) :
    rule.computed name = rule.prescribed name ↔ rule.Suits name := by
  cases rule with
  | pascal => exact (spaced_iff h).1
  | camel => exact computed_camel_iff h
  | lower | upper | snake | screamingSnake | kebab | screamingKebab =>
      simp [computed, Suits]

end CaseRule

/-!
# Stored names
-/

namespace Naming

theorem renamed_of_isPlain (rule : CaseRule) {name : String} (h : IsPlain name.toList) :
    renamed rule.spelling name = String.ofList (rule.computed name.toList) := by
  have hlow : forall c, c ∈ name.toList -> c.toNat < 128 := fun c hc => (h c hc).toNat_lt
  have hupper := CaseMap.upperText_of_lt hlow
  cases rule with
  | lower =>
      show String.ofList (CaseMap.lowerText name.toList) = _
      rw [CaseMap.lowerText_of_isPlain h]
      rfl
  | upper =>
      show String.ofList (CaseMap.upperText name.toList) = _
      rw [hupper]
      rfl
  | screamingSnake =>
      show String.ofList (CaseMap.upperText name.toList) = _
      rw [hupper]
      rfl
  | pascal =>
      show String.ofList (Words.pascalCase name.toList) = _
      rw [Words.pascalCase_of_isPlain h]
      rfl
  | camel =>
      show String.ofList (Words.camelCase name.toList) = _
      rw [Words.camelCase_of_isPlain h]
      rfl
  | snake =>
      show name = String.ofList name.toList
      rw [String.ofList_toList]
  | kebab => rfl
  | screamingKebab =>
      show String.ofList (CaseMap.upperText (RenameRule.hyphenated name.toList)) = _
      rw [CaseMap.upperText_of_lt]
      · rfl
      · intro c hc
        rcases List.mem_map.mp hc with ⟨d, hd, rfl⟩
        split
        · decide
        · exact hlow d hd

/-- The field is stored under its own name, or else under the one that the rule of its type asks
for. -/
def Follows (field container : Naming) (rule : Option CaseRule) (name : String) : Prop :=
  storedName field container name =
    field.rename.getD
      (String.ofList (rule.elim name.toList (fun rule => rule.prescribed name.toList)))

instance (field container : Naming) (rule : Option CaseRule) (name : String) :
    Decidable (Follows field container rule name) :=
  inferInstanceAs (Decidable (_ = _))

/-- A letter after a digit begins a word, and so does a letter after underscores at the start. -/
theorem not_follows_v2x :
    IsPlain "v2x".toList
      ∧ ¬ Follows {} { renameAll := some CaseRule.pascal.spelling } (some .pascal) "v2x"
      ∧ IsPlain "_hidden".toList
      ∧ ¬ Follows {} { renameAll := some CaseRule.camel.spelling } (some .camel) "_hidden" := by
  decide +kernel

/-- A field with a name of its own is stored under that name.  Any other is stored under the name
that is computed by the rule of its type, which is the one that the rule asks for exactly when the
name of the field suits the rule. -/
theorem storedName_settled (field container : Naming) (name : String) :
    (forall stored, field.rename = some stored -> storedName field container name = stored)
      ∧ forall rule : Option CaseRule, IsPlain name.toList ->
          container.renameAll = rule.map CaseRule.spelling -> field.rename = none ->
          storedName field container name =
              String.ofList (rule.elim name.toList (fun rule => rule.computed name.toList))
            ∧ (Follows field container rule name ↔
                forall given, rule = some given -> given.Suits name.toList) := by
  constructor
  · intro stored hstored
    simp [storedName, hstored]
  · intro rule hname hrule hfield
    cases rule with
    | none =>
        have hsame : storedName field container name = name := by
          simp [storedName, hfield, hrule]
        simp [Follows, hsame, hfield]
    | some given =>
        have hcomputed :
            storedName field container name = String.ofList (given.computed name.toList) := by
          rw [← renamed_of_isPlain given hname]
          simp [storedName, hfield, hrule]
        refine ⟨hcomputed, ?_⟩
        rw [Follows, hcomputed, hfield]
        show String.ofList _ = String.ofList (given.prescribed _) ↔ _
        rw [String.ofList_inj, CaseRule.computed_iff given hname]
        simp

theorem storedName_settled_item :
    storedName { rename := some "no" } { renameAll := some "camelCase" } "item_2" = "no"
      ∧ storedName {} { renameAll := some "camelCase" } "item_2" = "item2"
      ∧ Follows {} { renameAll := some "camelCase" } (some .camel) "item_2" := by
  have hown := (storedName_settled { rename := some "no" } { renameAll := some "camelCase" }
    "item_2").1 "no" rfl
  have hbyRule := (storedName_settled {} { renameAll := some "camelCase" } "item_2").2
    (some .camel) (by decide +kernel) rfl rfl
  refine ⟨hown, hbyRule.1.trans (by decide +kernel), hbyRule.2.mpr ?_⟩
  intro given hgiven
  cases hgiven
  decide +kernel

end Naming

end PartialUpdate
