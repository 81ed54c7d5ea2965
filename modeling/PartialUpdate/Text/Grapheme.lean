import PartialUpdate.Text.Grapheme.Table

/-!
# Grapheme clusters

What a reader sees as one character may be several: a letter with its marks, a Hangul
syllable, a conjunct, a flag, a joined pictograph.
-/

namespace PartialUpdate
namespace Grapheme

/-!
# Roles

What a character does at the edge of a cluster.
-/

inductive Role where
  | carriageReturn
  | lineFeed
  | control
  | extend
  | joiner
  | spacingMark
  | prepended
  | regionalLetter
  | leadingJamo
  | vowelJamo
  | trailingJamo
  | openSyllable
  | closedSyllable
  | pictograph
  | conjunctConsonant
  | other
  deriving DecidableEq, Repr

namespace Role

/-- Line ends and controls are never part of a larger cluster, but for one pair of line ends. -/
def isAlone : Role -> Bool
  | carriageReturn | lineFeed | control => true
  | _ => false

def attaches : Role -> Bool
  | extend | joiner | spacingMark => true
  | _ => false

def inSyllable : Role -> Role -> Bool
  | leadingJamo, leadingJamo | leadingJamo, vowelJamo => true
  | leadingJamo, openSyllable | leadingJamo, closedSyllable => true
  | openSyllable, vowelJamo | openSyllable, trailingJamo => true
  | vowelJamo, vowelJamo | vowelJamo, trailingJamo => true
  | closedSyllable, trailingJamo | trailingJamo, trailingJamo => true
  | _, _ => false

end Role

def listed : List (CharSet × Role) :=
  [(⟨[(0xD, 0xD)]⟩, .carriageReturn), (⟨[(0xA, 0xA)]⟩, .lineFeed),
    (CharSet.graphemeControl, .control), (CharSet.graphemeExtend, .extend),
    (⟨[(0x200D, 0x200D)]⟩, .joiner), (CharSet.spacingMark, .spacingMark),
    (CharSet.prepended, .prepended), (⟨[(0x1F1E6, 0x1F1FF)]⟩, .regionalLetter),
    (CharSet.leadingJamo, .leadingJamo), (CharSet.vowelJamo, .vowelJamo),
    (CharSet.trailingJamo, .trailingJamo), (CharSet.pictograph, .pictograph),
    (CharSet.conjunctConsonant, .conjunctConsonant)]

/-- Hangul syllables come in blocks of twenty-eight, the open syllable first. -/
def syllableRole (n : Nat) : Role :=
  if 0xAC00 <= n && n <= 0xD7A3 then
    if (n - 0xAC00) % 28 == 0 then .openSyllable else .closedSyllable
  else .other

def role (c : Char) : Role :=
  match listed.find? (fun entry => entry.1.contains c) with
  | some (_, role) => role
  | none => syllableRole c.toNat

/-!
# Clusters

A cluster under construction is held with its last character first.
-/

/-- A pictograph, marks on it, and a joiner. -/
def awaitsPictograph : List Char -> Bool
  | [] => false
  | last :: earlier =>
      role last == .joiner
        && (earlier.dropWhile (fun c => role c == .extend)).head?.any (fun c => role c == .pictograph)

/-- Marks inside a conjunct: all that extend but the character that forbids joining. -/
def isConjunctMark (c : Char) : Bool :=
  (role c == .extend && c != '\u200C') || role c == .joiner

def awaitsConsonant (cluster : List Char) : Bool :=
  (cluster.takeWhile isConjunctMark).any CharSet.conjunctLinker.contains
    && (cluster.dropWhile isConjunctMark).head?.any (fun c => role c == .conjunctConsonant)

/-- Regional letters stand for a flag in pairs. -/
def awaitsRegionalLetter (cluster : List Char) : Bool :=
  (cluster.takeWhile (fun c => role c == .regionalLetter)).length % 2 == 1

def joins : List Char -> Char -> Bool
  | [], _ => true
  | last :: earlier, next =>
      let before := role last
      let after := role next
      if before.isAlone || after.isAlone then
        before == .carriageReturn && after == .lineFeed
      else
        after.attaches || before == .prepended || before.inSyllable after
          || (after == .pictograph && awaitsPictograph (last :: earlier))
          || (after == .conjunctConsonant && awaitsConsonant (last :: earlier))
          || (after == .regionalLetter && awaitsRegionalLetter (last :: earlier))

def clustersAfter : List Char -> List Char -> List (List Char)
  | cluster, [] => [cluster.reverse]
  | cluster, next :: rest =>
      if joins cluster next then clustersAfter (next :: cluster) rest
      else cluster.reverse :: clustersAfter [next] rest

def clusters : List Char -> List (List Char)
  | [] => []
  | first :: rest => clustersAfter [first] rest

end Grapheme
end PartialUpdate
