import StorageTyping.Binary.Rounding
import StorageTyping.Decimal.Shortest

/-!
# Writing a floating-point value in decimal

A value is written with the digits of its shortest decimal in one of two forms. The plain form
is always positional and shows no fractional part for a whole number. The marked form can be
told from a whole number at a glance: a whole number ends in `.0`, and a value of at least
`10 ^ 16` or below `10 ^ -4` has its first digit before the point and an exponent.

Infinities are `inf` and `-inf`; a not-a-number is `NaN`, whatever its sign.
-/

namespace StorageTyping

namespace Decimal

/-- A run of zeros. -/
def zeros (count : Nat) : String := String.ofList (List.replicate count '0')

/-- The significant digits of a positive decimal and the number of them in front of the point,
which is not positive for a value below one tenth. -/
def digitsAndPoint (decimal : Decimal) : List Char × Int :=
  let digits := Nat.toDigits 10 decimal.coefficient
  ((digits.reverse.dropWhile (· = '0')).reverse, digits.length + decimal.exponent)

/-- Digits written positionally, `point` of them in front of the point; `whole` is written after
a number without fractional part. -/
def positional (digits : List Char) (point : Int) (whole : String) : String :=
  if point ≤ 0 then "0." ++ zeros (-point).toNat ++ String.ofList digits
  else if digits.length ≤ point then
    String.ofList digits ++ zeros (point.toNat - digits.length) ++ whole
  else String.ofList (digits.take point.toNat) ++ "." ++ String.ofList (digits.drop point.toNat)

/-- Digits written with the first of them in front of the point, and an exponent of ten. -/
def scientific (digits : List Char) (point : Int) : String :=
  let fraction := digits.drop 1
  String.ofList (digits.take 1) ++ (if fraction.isEmpty then "" else "." ++ String.ofList fraction) ++
    "e" ++ toString (point - 1)

end Decimal

/-- The two forms in which a floating-point value is written. -/
inductive FloatForm where
  /-- Positional, without a mark on whole numbers. -/
  | plain
  /-- With a `.0` on whole numbers, and an exponent on large and small values. -/
  | marked
deriving DecidableEq, Repr

namespace FloatForm

/-- What follows a whole number. -/
def wholeMark : FloatForm → String
  | .plain => ""
  | .marked => ".0"

/-- Whether a value with its point after so many digits is written with an exponent. -/
def usesExponent : FloatForm → Int → Bool
  | .plain, _ => false
  | .marked, point => 16 ≤ point - 1 || point - 1 < -4

end FloatForm

namespace Datum

/-- A value of a format in decimal. -/
def toText (format : BinaryFormat) (form : FloatForm) : Datum → String
  | .notANumber _ => "NaN"
  | .infinite negative => if negative then "-inf" else "inf"
  | .finite negative significand exponent =>
    let sign := if negative then "-" else ""
    if significand = 0 then sign ++ "0" ++ form.wholeMark
    else
      let (digits, point) := (Decimal.shortest format significand exponent).digitsAndPoint
      if form.usesExponent point then sign ++ Decimal.scientific digits point
      else sign ++ Decimal.positional digits point form.wholeMark

end Datum

end StorageTyping
