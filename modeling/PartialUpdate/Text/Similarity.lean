/-!
# Similarity of words

The Jaro similarity counts the characters that two words share at nearby places and how
many of those come in another order; the Jaro-Winkler similarity raises it for a common
beginning of at most four characters, if the words are somewhat similar at all.
-/

namespace PartialUpdate
namespace Similarity

/-- Characters of the first word that find an unused equal within `reach` places in the
second, with the places they take. -/
def sharedFrom (reach : Nat) (second : Array Char) :
    List Char -> Nat -> List Nat -> List (Char × Nat)
  | [], _, _ => []
  | c :: rest, i, taken =>
      let first := i - reach
      let past := min second.size (i + reach + 1)
      let places := (List.range' first (past - first)).filter
        (fun j => second[j]? == some c && !taken.contains j)
      match places with
      | [] => sharedFrom reach second rest (i + 1) taken
      | j :: _ => (c, j) :: sharedFrom reach second rest (i + 1) (j :: taken)

def jaro (a b : List Char) : Float :=
  if a.isEmpty && b.isEmpty then 1
  else if a.isEmpty || b.isEmpty then 0
  else
    let second := b.toArray
    let reach := max a.length b.length / 2 - 1
    let found := sharedFrom reach second a 0 []
    let places := (found.map Prod.snd).mergeSort
    let reordered := places.filterMap (fun j => second[j]?)
    let displaced := ((found.map Prod.fst).zip reordered).countP (fun pair => pair.1 != pair.2)
    let count := found.length.toFloat
    if found.isEmpty then 0
    else
      (count / a.length.toFloat + count / b.length.toFloat
        + (count - (displaced / 2).toFloat) / count) / 3

def commonBeginning : List Char -> List Char -> Nat
  | a :: as, b :: bs => if a == b then commonBeginning as bs + 1 else 0
  | _, _ => 0

def jaroWinkler (a b : List Char) : Float :=
  let base := jaro a b
  let shared := min 4 (commonBeginning a b)
  if base > 0.7 then base + 0.1 * shared.toFloat * (1 - base) else base

/-- The most similar of the known words, if one is similar by more than four fifths; the
first of equally similar ones. -/
def closest? (word : String) (known : List String) : Option String :=
  let better := fun (best : Option (Float × String)) (candidate : String) =>
    let score := jaroWinkler word.toList candidate.toList
    match best with
    | none => if score > 0.8 then some (score, candidate) else none
    | some (bestScore, _) => if score > bestScore then some (score, candidate) else best
  (known.foldl better none).map Prod.snd

end Similarity
end PartialUpdate
