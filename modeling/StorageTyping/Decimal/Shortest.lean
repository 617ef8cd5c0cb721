import StorageTyping.Binary.Format

/-!
# The shortest decimal that reads back

A finite value of a binary format is what a whole interval of reals rounds to. Its shortest
decimal is a point of the coarsest grid of multiples of a power of ten that meets this
interval; of two such points it is the nearer one, and of two equally near the upper.

The interval ends halfway to the neighbouring values, the lower neighbour of a power of two
being half as far away as the upper one. An end belongs to the interval if the significand is
even, because a tie then rounds to it. Everything is compared exactly, in quarters of the last
binary place, by cross-multiplication of whole numbers.
-/

namespace StorageTyping

/-- A decimal fraction, `coefficient * 10 ^ exponent`. -/
structure Decimal where
  coefficient : Nat
  exponent : Int
deriving DecidableEq, Repr

/-- The reals that round to `significand * 2 ^ exponent`, in units of a quarter of the last
place. -/
structure RoundingInterval where
  lower : Nat
  upper : Nat
  /-- Whether the two ends round to the value as well. -/
  closed : Bool
deriving DecidableEq, Repr

namespace Decimal

/-- The rounding interval of a positive value of a format. -/
def roundingInterval (format : BinaryFormat) (significand : Nat) (exponent : Int) :
    RoundingInterval where
  lower :=
    if significand = Nat.pow 2 format.fractionBits ∧ format.leastExponent < exponent then
      4 * significand - 1
    else 4 * significand - 2
  upper := 4 * significand + 2
  closed := significand % 2 = 0

/-- The multiple of `10 ^ place` in a rounding interval that is nearest to the value, of two
equally near the upper one. -/
def nearestOnGrid? (interval : RoundingInterval) (significand : Nat) (exponent place : Int) :
    Option Nat :=
  -- A coefficient `c` lies at `c * grid` and a number `x` of quarters at `x * quarter`.
  let grid := Nat.pow 10 place.toNat * Nat.pow 2 (2 - exponent).toNat
  let quarter := Nat.pow 10 (-place).toNat * Nat.pow 2 (exponent - 2).toNat
  let floor := 4 * significand * quarter / grid
  let rest := 4 * significand * quarter % grid
  let above : Bool :=
    if interval.closed then interval.lower * quarter ≤ floor * grid
    else interval.lower * quarter < floor * grid
  let below : Bool :=
    if interval.closed then (floor + 1) * grid ≤ interval.upper * quarter
    else (floor + 1) * grid < interval.upper * quarter
  match above, below with
  | true, true => if 2 * rest < grid then some floor else some (floor + 1)
  | true, false => some floor
  | false, true => some (floor + 1)
  | false, false => none

/-- Try grids of decreasing coarseness from a place downwards, for as many places as given. -/
def searchGrids (interval : RoundingInterval) (significand : Nat) (exponent : Int) :
    Nat → Int → Option Decimal
  | 0, _ => none
  | places + 1, place =>
    match nearestOnGrid? interval significand exponent place with
    | some coefficient => some ⟨coefficient, place⟩
    | none => searchGrids interval significand exponent places (place - 1)

/-- The decimal that equals `significand * 2 ^ exponent`. -/
def ofBinary (significand : Nat) (exponent : Int) : Decimal :=
  ⟨significand * Nat.pow 2 exponent.toNat * Nat.pow 5 (-exponent).toNat, min exponent 0⟩

/-- A place whose unit exceeds `significand * 2 ^ exponent` in every format used here. -/
def coarsePlace (significand : Nat) (exponent : Int) : Int :=
  (exponent + significand.log2 + 1) * 3 / 10 + 3

/-- The shortest decimal that rounds to a positive value of a format. Twenty-five places below
the coarse one reach beyond the seventeen digits that always suffice. -/
def shortest (format : BinaryFormat) (significand : Nat) (exponent : Int) : Decimal :=
  let interval := roundingInterval format significand exponent
  (searchGrids interval significand exponent 25 (coarsePlace significand exponent)).getD
    (ofBinary significand exponent)

end Decimal

end StorageTyping
