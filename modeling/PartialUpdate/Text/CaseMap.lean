import PartialUpdate.Text.CaseMap.Table
import PartialUpdate.Text.Cased

/-!
# Case maps

Lower and upper case of characters and texts.  One character may become several, and a
capital sigma is lowered by its place in the word.
-/

namespace PartialUpdate
namespace CaseMap

namespace Run

def holds (run : Run) (n : Nat) : Bool :=
  run.first <= n && n <= run.last && (n - run.first) % run.stride == 0

def apply (run : Run) (n : Nat) : Nat :=
  ((n : Int) + run.shift).toNat

end Run

def image (expansions : List (Nat × List Nat)) (runs : List Run) (c : Char) : List Char :=
  match expansions.lookup c.toNat with
  | some codes => codes.map Char.ofNat
  | none =>
      match runs.find? (fun run => run.holds c.toNat) with
      | some run => [Char.ofNat (run.apply c.toNat)]
      | none => [c]

def lower (c : Char) : List Char :=
  if c.toNat < 128 then [c.toLower] else image lowerExpansions lowerRuns c

def upper (c : Char) : List Char :=
  if c.toNat < 128 then [c.toUpper] else image upperExpansions upperRuns c

/-!
# Texts

Small sigma has a form of its own at the end of a word.
-/

/-- Whether a character with case comes next, ignorable characters passed over. -/
def casedNext (text : List Char) : Bool :=
  match text.dropWhile CharSet.caseIgnorable.contains with
  | [] => false
  | c :: _ => CharSet.cased.contains c

/-- `before` holds what stands to the left, the nearest character first. -/
def lowerAfter : List Char -> List Char -> List Char
  | _, [] => []
  | before, c :: rest =>
      let image :=
        if c == 'Σ' then
          if casedNext before && !casedNext rest then ['ς'] else ['σ']
        else lower c
      image ++ lowerAfter (c :: before) rest

def lowerText (text : List Char) : List Char :=
  lowerAfter [] text

def upperText (text : List Char) : List Char :=
  text.flatMap upper

/-- Small letters: fixed by the lower-case map and moved by the upper-case map. -/
def isSmall (text : List Char) : Bool :=
  lowerText text != upperText text && lowerText text == text

/-- Capitals: fixed by the upper-case map and moved by the lower-case map. -/
def isCapital (text : List Char) : Bool :=
  lowerText text != upperText text && upperText text == text

end CaseMap
end PartialUpdate
