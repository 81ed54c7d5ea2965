import PartialUpdate.Decimal.Nearest

/-!
# Numerals

Texts of whole numbers and of doubles.  A sign may stand first.  A double is digits with or
without a point among, before or behind them and perhaps an exponent, or one of the words for
infinity and for what is no number, in any case.
-/

namespace PartialUpdate
namespace Numeral

def digitsValue? (digits : List Char) : Option Nat :=
  if digits.isEmpty || !digits.all Char.isDigit then none
  else some (digits.foldl (fun value c => value * 10 + (c.toNat - '0'.toNat)) 0)

/-- Whether a minus stands first, and the text behind a sign. -/
def splitSign : List Char -> Bool × List Char
  | '-' :: rest => (true, rest)
  | '+' :: rest => (false, rest)
  | text => (false, text)

def integer? (text : List Char) : Option Int :=
  let (negative, digits) := splitSign text
  (digitsValue? digits).map (fun value => if negative then -value else value)

def integerWithin? (bound : Nat) (text : String) : Option Int := do
  let value ← integer? text.toList
  if -(bound : Int) <= value && value < bound then some value else none

def words : List (String × UInt64) :=
  [("inf", Double.infinity), ("infinity", Double.infinity), ("nan", Double.undefined)]

def splitPoint (text : List Char) : List Char × List Char :=
  (text.takeWhile (fun c => c != '.'), (text.dropWhile (fun c => c != '.')).drop 1)

def isExponentMark (c : Char) : Bool :=
  c == 'e' || c == 'E'

def decimal? (text : List Char) : Option Decimal := do
  let mantissa := text.takeWhile (fun c => !isExponentMark c)
  let (whole, fraction) := splitPoint mantissa
  let digits ← digitsValue? (whole ++ fraction)
  let exponent ←
    match text.dropWhile (fun c => !isExponentMark c) with
    | [] => some 0
    | _ :: rest => integer? rest
  return ⟨digits, exponent - fraction.length⟩

def unsigned? (text : List Char) : Option UInt64 :=
  match words.lookup (String.ofList (text.map Char.toLower)) with
  | some bits => some bits
  | none => Decimal.nearest <$> decimal? text

def double? (text : String) : Option UInt64 := do
  let (negative, rest) := splitSign text.toList
  let bits ← unsigned? rest
  return if negative then Double.negated bits else bits

end Numeral
end PartialUpdate
