import PartialUpdate.Text.Blank

/-!
# Surrounding white space
-/

namespace PartialUpdate
namespace Text

def isBlank (c : Char) : Bool :=
  CharSet.blank.contains c

def trimStart (text : List Char) : List Char :=
  text.dropWhile isBlank

def trimEnd (text : List Char) : List Char :=
  (text.reverse.dropWhile isBlank).reverse

def trim (text : List Char) : List Char :=
  trimEnd (trimStart text)

/-!
# Pieces between separators

`n` separators leave `n + 1` pieces, so the list of pieces is never empty.
-/

def pieces (separator : Char) : List Char -> List (List Char)
  | [] => [[]]
  | c :: rest =>
      match pieces separator rest with
      | [] => [[]]
      | piece :: more =>
          if c == separator then [] :: piece :: more else (c :: piece) :: more

theorem pieces_ne_nil (separator : Char) (text : List Char) : pieces separator text ≠ [] := by
  cases text with
  | nil => simp [pieces]
  | cons c rest =>
      unfold pieces
      split
      · simp
      · split <;> simp

end Text
end PartialUpdate
