import PartialUpdate.Decimal.Shortest

/-!
# Nearest doubles

The double nearest to a decimal, in exact arithmetic.  The decimal is taken as a fraction and
rounded at the last binary place that a double of its size has; halfway cases go to the even
mantissa.
-/

namespace PartialUpdate
namespace Double

def infinity : UInt64 := 0x7FF0000000000000

def undefined : UInt64 := 0x7FF8000000000000

def negated (bits : UInt64) : UInt64 :=
  bits ^^^ 0x8000000000000000

end Double

namespace Decimal

/-- A quotient rounded to the nearest whole number, halves to the even one. -/
def roundedQuotient (numerator denominator : Nat) : Nat :=
  let quotient := numerator / denominator
  let rest := numerator % denominator
  if 2 * rest > denominator || (2 * rest == denominator && quotient % 2 == 1) then quotient + 1
  else quotient

/-- The last place of a double next to a fraction: the first place is the 53rd from it, and no
place lies below that of the smallest double. -/
def lastPlace (numerator denominator : Nat) : Int :=
  let place : Int := (numerator.log2 : Int) - (denominator.log2 : Int) - 52
  let below := numerator * twos (-place).toNat < denominator * twos (place.toNat + 52)
  max (-1074) (if below then place - 1 else place)

/-- The bits of the double nearest to a fraction other than zero.  The mantissa and the place
make up the bits by addition, so that a mantissa that is rounded up to the next power of two
carries into the exponent. -/
def nearestToFraction (numerator denominator : Nat) : UInt64 :=
  let place := lastPlace numerator denominator
  let mantissa :=
    roundedQuotient (numerator * twos (-place).toNat) (denominator * twos place.toNat)
  let bits := mantissa + (place + 1074).toNat * twos 52
  if bits < Double.infinity.toNat then UInt64.ofNat bits else Double.infinity

/-- The bits of the double nearest to a decimal; sizes far out of range are not computed. -/
def nearest (decimal : Decimal) : UInt64 :=
  if decimal.digits == 0 || decimal.power < -400 then 0
  else if decimal.power > 400 then Double.infinity
  else
    nearestToFraction (decimal.digits * tens decimal.exponent.toNat)
      (tens (-decimal.exponent).toNat)

end Decimal
end PartialUpdate
