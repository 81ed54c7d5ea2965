/-!
# Shortest decimals

The decimal text of a double is the one with the fewest digits among those that read back
as the same double, and of these the nearest one.  A double is taken apart into a natural
number times a power of two; candidates are compared with the ends of the interval of
reals that round to it, in exact arithmetic.
-/

namespace PartialUpdate

/-- A finite magnitude `mantissa * 2 ^ exponent`. -/
structure Magnitude where
  mantissa : Nat
  exponent : Int
  /-- The gap to the double below is half the gap to the double above. -/
  narrowBelow : Bool

/-- `digits * 10 ^ exponent`. -/
structure Decimal where
  digits : Nat
  exponent : Int
  deriving DecidableEq

inductive DoubleForm
  | undefined
  | infinite (negative : Bool)
  | finite (negative : Bool) (magnitude : Magnitude)

namespace DoubleForm

def ofBits (bits : UInt64) : DoubleForm :=
  let negative := bits >>> 63 == 1
  let biased := ((bits >>> 52) &&& 0x7FF).toNat
  let fraction := (bits &&& 0xFFFFFFFFFFFFF).toNat
  if biased == 0x7FF then
    if fraction == 0 then .infinite negative else .undefined
  else if biased == 0 then .finite negative ⟨fraction, -1074, false⟩
  else
    .finite negative
      ⟨Nat.pow 2 52 + fraction, (biased : Int) - 1075, fraction == 0 && biased > 1⟩

end DoubleForm

namespace Decimal

def twos (n : Nat) : Nat := Nat.pow 2 n

def tens (n : Nat) : Nat := Nat.pow 10 n

/-- Compares `a * 10 ^ i` with `n * 2 ^ j`. -/
def compareScaled (a : Nat) (i : Int) (n : Nat) (j : Int) : Ordering :=
  compare (a * tens i.toNat * twos (-j).toNat) (n * twos j.toNat * tens (-i).toNat)

/-- Whether the decimal rounds to the magnitude; halfway cases go to the even mantissa. -/
def roundsTo (decimal : Decimal) (value : Magnitude) : Bool :=
  let low := if value.narrowBelow then 4 * value.mantissa - 1 else 4 * value.mantissa - 2
  let high := 4 * value.mantissa + 2
  let even := value.mantissa % 2 == 0
  let below := compareScaled decimal.digits decimal.exponent low (value.exponent - 2)
  let above := compareScaled decimal.digits decimal.exponent high (value.exponent - 2)
  (below == .gt || (even && below == .eq)) && (above == .lt || (even && above == .eq))

/-- The least `k` with the magnitude below `10 ^ k`, for a magnitude other than zero. -/
def scale (value : Magnitude) : Int :=
  let shifted :=
    value.mantissa * twos value.exponent.toNat * tens 400 / twos (-value.exponent).toNat
  ((Nat.toDigits 10 shifted).length : Int) - 400

/-- The largest decimal on the grid `10 ^ exponent` that is not above the magnitude. -/
def floorOn (value : Magnitude) (exponent : Int) : Decimal :=
  let numerator := value.mantissa * twos value.exponent.toNat * tens (-exponent).toNat
  let denominator := twos (-value.exponent).toNat * tens exponent.toNat
  ⟨numerator / denominator, exponent⟩

/-- The neighbour of the magnitude on the grid that rounds to it; of two the nearer, and when
both are equally near the upper or the even one. -/
def onGrid? (tiesUp : Bool) (value : Magnitude) (exponent : Int) : Option Decimal :=
  let lower := floorOn value exponent
  let upper : Decimal := ⟨lower.digits + 1, exponent⟩
  match lower.roundsTo value, upper.roundsTo value with
  | false, false => none
  | true, false => some lower
  | false, true => some upper
  | true, true =>
      match compareScaled (2 * lower.digits + 1) exponent (2 * value.mantissa) value.exponent with
      | .gt => some lower
      | .lt => some upper
      | .eq => if tiesUp || lower.digits % 2 == 1 then some upper else some lower

/-- Searches the grids from `scale - count` downward; the exact value ends the search. -/
def search (tiesUp : Bool) (value : Magnitude) (top : Int) : Nat -> Decimal
  | 0 => floorOn value (min 0 value.exponent)
  | fuel + 1 =>
      match onGrid? tiesUp value (top - (18 - (fuel + 1 : Nat))) with
      | some decimal => decimal
      | none => search tiesUp value top fuel

def strip : Nat -> Decimal -> Decimal
  | 0, decimal => decimal
  | fuel + 1, decimal =>
      if decimal.digits != 0 && decimal.digits % 10 == 0 then
        strip fuel ⟨decimal.digits / 10, decimal.exponent + 1⟩
      else decimal

def shortest (tiesUp : Bool) (value : Magnitude) : Decimal :=
  if value.mantissa == 0 then ⟨0, 0⟩
  else strip 400 (search tiesUp value (scale value) 17)

/-!
# Layouts
-/

def zeros (n : Nat) : List Char :=
  List.replicate n '0'

def positional (decimal : Decimal) : String :=
  let digits := Nat.toDigits 10 decimal.digits
  let whole := (digits.length : Int) + decimal.exponent
  let text :=
    if decimal.exponent >= 0 then digits ++ zeros decimal.exponent.toNat ++ ['.', '0']
    else if whole <= 0 then ['0', '.'] ++ zeros (-whole).toNat ++ digits
    else digits.take whole.toNat ++ '.' :: digits.drop whole.toNat
  String.ofList text

def power (decimal : Decimal) : Int :=
  decimal.exponent + (Nat.toDigits 10 decimal.digits).length - 1

/-- One digit, the rest after a point if there is a rest, and a power of ten, which may carry
its sign even if that is a plus. -/
def scientific (signed : Bool) (decimal : Decimal) : String :=
  match Nat.toDigits 10 decimal.digits with
  | [] => ""
  | first :: rest =>
      let fraction := if rest.isEmpty then [] else '.' :: rest
      String.ofList (first :: fraction) ++ "e"
        ++ (if signed && decimal.power >= 0 then "+" else "") ++ toString decimal.power

end Decimal

/-- How doubles are written: which decimals are written out in places, by the power of their
first digit, whether the powers of the others carry a plus, and whether of two shortest
decimals that are equally near the upper one is taken and not the even one. -/
structure DecimalLayout where
  least : Int
  greatest : Int
  signed : Bool
  tiesUp : Bool

namespace DecimalLayout

def write (layout : DecimalLayout) (decimal : Decimal) : String :=
  if decimal.digits == 0 || (layout.least <= decimal.power && decimal.power <= layout.greatest)
  then decimal.positional
  else decimal.scientific layout.signed

end DecimalLayout

namespace DoubleForm

def signed (negative : Bool) (text : String) : String :=
  if negative then "-" ++ text else text

def text (layout : DecimalLayout) : DoubleForm -> String
  | .undefined => "NaN"
  | .infinite negative => signed negative "inf"
  | .finite negative value => signed negative (layout.write (Decimal.shortest layout.tiesUp value))

end DoubleForm
end PartialUpdate
