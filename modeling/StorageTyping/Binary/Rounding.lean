import StorageTyping.Binary.Format

/-!
# Rounding to a binary format

A positive rational is rounded to the nearest value of a format, a tie going to the even
neighbour, with gradual underflow below the least normal value and an infinity above the
largest one. Conversion between formats and the reading of decimal text are both this one
rounding.

`BinaryFormat.roundRatio` works on a numerator and a denominator. It fixes the weight of the
last place first, from the binary logarithm of the quotient and the least weight of the format,
and then rounds one division of whole numbers.
-/

namespace StorageTyping

/-- A quotient of whole numbers rounded to the nearest one, a tie going to the even one. -/
def roundDivEven (num den : Nat) : Nat :=
  let quotient := num / den
  let twice := 2 * (num % den)
  if twice < den then quotient
  else if den < twice then quotient + 1
  else if quotient % 2 = 0 then quotient else quotient + 1

/-- The integral part of the binary logarithm of a positive quotient. -/
def floorLogTwo (num den : Nat) : Int :=
  let estimate : Int := num.log2 - den.log2
  if den * Nat.pow 2 estimate.toNat ≤ num * Nat.pow 2 (-estimate).toNat then estimate else estimate - 1

namespace BinaryFormat

/-- The value of a format nearest to `num / den`, a tie going to the even significand. -/
def roundRatio (format : BinaryFormat) (negative : Bool) (num den : Nat) : Datum :=
  let exponent := max (floorLogTwo num den - format.fractionBits) format.leastExponent
  let significand := roundDivEven (num * Nat.pow 2 (-exponent).toNat) (den * Nat.pow 2 exponent.toNat)
  let carried := significand = Nat.pow 2 format.precision
  let exponent := if carried then exponent + 1 else exponent
  let significand := if carried then Nat.pow 2 format.fractionBits else significand
  if format.greatestExponent < exponent then .infinite negative
  else .finite negative significand exponent

/-- The datum of a format nearest to a given datum; what is not finite stays as it is. -/
def convert (format : BinaryFormat) : Datum → Datum
  | .finite negative significand exponent =>
    format.roundRatio negative (significand * Nat.pow 2 exponent.toNat) (Nat.pow 2 (-exponent).toNat)
  | datum => datum

/-- Whether a datum keeps its value when it is rounded to a format. -/
def holdsExactly (format : BinaryFormat) (datum : Datum) : Bool :=
  (format.convert datum).sameValue datum

end BinaryFormat

/-- An exact quotient is not changed by rounding. -/
theorem roundDivEven_mul_right (quotient : Nat) {den : Nat} (h : 0 < den) :
    roundDivEven (quotient * den) den = quotient := by
  simp [roundDivEven, Nat.mul_div_cancel _ h, h]

end StorageTyping
