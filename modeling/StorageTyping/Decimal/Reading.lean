import StorageTyping.Binary.Rounding
import StorageTyping.Decimal.Shortest

/-!
# Reading a decimal into a binary format

A decimal is rounded to the nearest value of a format, a tie going to the even significand.
Exponents far outside the range of the format are answered without computing the power of ten:
the value is then a zero or an infinity.
-/

namespace StorageTyping

namespace Decimal

/-- The value of a format nearest to a decimal of the given sign. -/
def toDatum (format : BinaryFormat) (negative : Bool) (decimal : Decimal) : Datum :=
  let bound : Int := (4 * Nat.pow 2 format.exponentBits : Nat)
  let magnitude := (Nat.toDigits 10 decimal.coefficient).length + decimal.exponent
  if decimal.coefficient = 0 ∨ magnitude < -bound then .finite negative 0 format.leastExponent
  else if bound < magnitude then .infinite negative
  else format.roundRatio negative (decimal.coefficient * Nat.pow 10 decimal.exponent.toNat)
    (Nat.pow 10 (-decimal.exponent).toNat)

end Decimal

end StorageTyping
