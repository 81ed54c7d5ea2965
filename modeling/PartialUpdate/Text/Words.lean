import PartialUpdate.Text.CaseMap
import PartialUpdate.Text.Grapheme

/-!
# Words of a name

A compound name falls into words at underscores, hyphens and spaces, which vanish, and
between clusters where the kind of cluster changes.  Two adjoining separators leave an
empty word between them.  A separator that carries a mark separates nothing.
-/

namespace PartialUpdate
namespace Words

def isSeparator (cluster : List Char) : Bool :=
  cluster == ['_'] || cluster == ['-'] || cluster == [' ']

def isNumber (cluster : List Char) : Bool :=
  cluster.all Char.isDigit

/-- Whether a word ends after `cluster`: a small letter before a capital, a letter beside a
digit, or a capital before the last capital of a run that a small letter follows. -/
def endsAfter (cluster : List Char) : List (List Char) -> Bool
  | [] => false
  | next :: rest =>
      let letter := fun x => CaseMap.isSmall x || CaseMap.isCapital x
      (CaseMap.isSmall cluster && CaseMap.isCapital next)
        || (letter cluster && isNumber next)
        || (isNumber cluster && letter next)
        || (CaseMap.isCapital cluster && CaseMap.isCapital next
            && (rest.head?.any CaseMap.isSmall))

def splitClusters : List (List Char) -> List (List (List Char))
  | [] => [[]]
  | cluster :: rest =>
      let words := splitClusters rest
      if isSeparator cluster then [] :: words
      else
        match words with
        | [] => [[cluster]]
        | word :: more =>
            if endsAfter cluster rest then [cluster] :: word :: more
            else (cluster :: word) :: more

def split (name : List Char) : List (List (List Char)) :=
  splitClusters (Grapheme.clusters name)

def lowered (word : List (List Char)) : List Char :=
  CaseMap.lowerText word.flatten

def capitalized : List (List Char) -> List Char
  | [] => []
  | cluster :: rest => CaseMap.upperText cluster ++ lowered rest

def pascalCase (name : List Char) : List Char :=
  (split name).flatMap capitalized

/-- Every word but the first capitalized; an empty first word counts. -/
def camelCase (name : List Char) : List Char :=
  match split name with
  | [] => []
  | first :: rest => lowered first ++ rest.flatMap capitalized

end Words
end PartialUpdate
