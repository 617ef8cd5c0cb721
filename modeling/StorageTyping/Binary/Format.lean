/-!
# Binary floating-point formats

An interchange format is given by the widths of its exponent and fraction fields. A bit pattern
of the format decodes to a `Datum`: a signed multiple of a power of two, an infinity or a
not-a-number. All arithmetic on floating-point values is done on data, in whole numbers; no
machine float takes part.

A datum keeps the sign of a zero and of a not-a-number, because a rendered complex literal
shows them.
-/

namespace StorageTyping

/-- A binary interchange format, by the widths of its exponent and fraction fields. -/
structure BinaryFormat where
  exponentBits : Nat
  fractionBits : Nat
deriving DecidableEq, Repr

/-- What a bit pattern of a binary format stands for. -/
inductive Datum where
  /-- The value `significand * 2 ^ exponent`, with a sign that a zero has as well. -/
  | finite (negative : Bool) (significand : Nat) (exponent : Int)
  | infinite (negative : Bool)
  | notANumber (negative : Bool)
deriving DecidableEq, Repr

namespace BinaryFormat

/-- The format of 16 bits. -/
def half : BinaryFormat := ⟨5, 10⟩

/-- The format of 32 bits. -/
def single : BinaryFormat := ⟨8, 23⟩

/-- The format of 64 bits. -/
def double : BinaryFormat := ⟨11, 52⟩

/-- The number of bits of a pattern: a sign, the exponent and the fraction. -/
def width (format : BinaryFormat) : Nat := 1 + format.exponentBits + format.fractionBits

/-- The number of significant bits of a value, the implicit leading one included. -/
def precision (format : BinaryFormat) : Nat := format.fractionBits + 1

/-- The largest exponent of two, which is also the bias of the exponent field. -/
def bias (format : BinaryFormat) : Nat := Nat.pow 2 (format.exponentBits - 1) - 1

/-- The weight of the last place of the subnormal values, as an exponent of two. -/
def leastExponent (format : BinaryFormat) : Int := 1 - format.bias - format.fractionBits

/-- The weight of the last place of the largest values, as an exponent of two. -/
def greatestExponent (format : BinaryFormat) : Int := format.bias - format.fractionBits

/-- Read a bit pattern: sign, exponent field and fraction, from the most significant bit. -/
def decode (format : BinaryFormat) (pattern : BitVec format.width) : Datum :=
  let bits := pattern.toNat
  let negative := bits / Nat.pow 2 (format.exponentBits + format.fractionBits) % 2 = 1
  let field := bits / Nat.pow 2 format.fractionBits % Nat.pow 2 format.exponentBits
  let fraction := bits % Nat.pow 2 format.fractionBits
  if field = Nat.pow 2 format.exponentBits - 1 then
    if fraction = 0 then .infinite negative else .notANumber negative
  else if field = 0 then .finite negative fraction format.leastExponent
  else
    .finite negative (Nat.pow 2 format.fractionBits + fraction) (field - format.bias - format.fractionBits)

end BinaryFormat

namespace Datum

/-- Whether the sign bit is set. -/
def negative : Datum → Bool
  | .finite negative _ _ => negative
  | .infinite negative => negative
  | .notANumber negative => negative

/-- The same datum with the other sign. -/
def negate : Datum → Datum
  | .finite negative significand exponent => .finite (!negative) significand exponent
  | .infinite negative => .infinite (!negative)
  | .notANumber negative => .notANumber (!negative)

/-- Whether the value is zero, of either sign. -/
def isZero : Datum → Bool
  | .finite _ significand _ => significand = 0
  | _ => false

/-- A signed multiple of a power of two as a whole number of units `2 ^ unit`, for a unit not
above its own exponent. -/
def inUnits (negative : Bool) (significand : Nat) (exponent unit : Int) : Int :=
  let magnitude : Int := (significand * Nat.pow 2 (exponent - unit).toNat : Nat)
  if negative then -magnitude else magnitude

/-- Numeric equality: zeros of both signs are equal, a not-a-number equals nothing. -/
def sameValue : Datum → Datum → Bool
  | .finite n₁ s₁ e₁, .finite n₂ s₂ e₂ => inUnits n₁ s₁ e₁ (min e₁ e₂) = inUnits n₂ s₂ e₂ (min e₁ e₂)
  | .infinite n₁, .infinite n₂ => n₁ = n₂
  | _, _ => false

end Datum

end StorageTyping
