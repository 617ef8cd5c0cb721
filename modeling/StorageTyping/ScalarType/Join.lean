import StorageTyping.ScalarType.Basic

/-!
# Joins of scalar types

The type of an arithmetic result from the types of its operands. There are two rules.

`join` joins two types by the usual conversions: the wider type wins, an integer joins a
floating-point type of at least twice its width, integers of mixed sign go to a signed type that
holds both or else to `float64`, and a complex type joins through its parts.

`joinAll` looks at all operands at once, so that its answer depends neither on their order
nor on repetitions. It differs from `join` in one place: next to a `float32`, an `int32` asks
for single precision only.
-/

namespace StorageTyping

namespace ScalarType

/-- The signed integer type of a width in bits. -/
def signedOfWidth? : Nat → Option ScalarType
  | 8 => some int8
  | 16 => some int16
  | 32 => some int32
  | 64 => some int64
  | _ => none

/-- The unsigned integer type of a width in bits. -/
def unsignedOfWidth? : Nat → Option ScalarType
  | 8 => some uint8
  | 16 => some uint16
  | 32 => some uint32
  | 64 => some uint64
  | _ => none

/-- The narrowest floating-point type of at least so many bits, or else the widest one. -/
def floatOfWidth (bits : Nat) : ScalarType :=
  if bits ≤ 16 then float16 else if bits ≤ 32 then float32 else float64

/-- The complex type whose parts hold a floating-point type. -/
def complexOfPart : ScalarType → ScalarType
  | float64 => complex128
  | _ => complex64

/-- The wider of two types, of equally wide ones the first. -/
def wider (left right : ScalarType) : ScalarType :=
  if right.bits ≤ left.bits then left else right

/-- The join of a signed and an unsigned integer type: the signed one if it is wider, else the
signed type of twice the unsigned width, which in the absence of such a type is `float64`. -/
def joinMixedSign (signed unsigned : ScalarType) : ScalarType :=
  if unsigned.bits < signed.bits then signed
  else (signedOfWidth? (2 * unsigned.bits)).getD float64

/-- The join of two real types. -/
def joinRealPair (left right : ScalarType) : ScalarType :=
  match left.category, right.category with
  | .float, .float => wider left right
  | .float, _ => floatOfWidth (max left.bits (2 * right.bits))
  | _, .float => floatOfWidth (max right.bits (2 * left.bits))
  | .signed, .unsigned => joinMixedSign left right
  | .unsigned, .signed => joinMixedSign right left
  | _, _ => wider left right

/-- The join of two types by the usual conversions. -/
def join (left right : ScalarType) : ScalarType :=
  if left = right then left
  else if left.isComplex || right.isComplex then
    complexOfPart (joinRealPair left.part right.part)
  else joinRealPair left right

/-- The greatest width among some types, zero if there are none. -/
def greatestWidth (width : ScalarType → Nat) (types : List ScalarType) : Nat :=
  (types.map width).foldr max 0

/-- The width of a type that is of a category, zero of any other type. -/
def bitsIn (category : Category) (type : ScalarType) : Nat :=
  if type.category = category then type.bits else 0

/-- The join of integer types, by the widest signed and the widest unsigned one. -/
def joinIntegers (types : List ScalarType) : Option ScalarType :=
  match signedOfWidth? (greatestWidth (bitsIn .signed) types),
      unsignedOfWidth? (greatestWidth (bitsIn .unsigned) types) with
  | some signed, some unsigned => some (joinMixedSign signed unsigned)
  | some signed, none => some signed
  | none, unsigned => unsigned

/-- The floating-point width that an operand asks for: its own width or that of its parts, and
of an integer twice its width, save an `int32` in single-precision company. -/
def floatBits (inSingleCompany : Bool) (type : ScalarType) : Nat :=
  if type.isInteger then
    if type = int32 && inSingleCompany then 32 else 2 * type.bits
  else type.part.bits

/-- The join of types not all of which are integer types. -/
def joinReals (types : List ScalarType) : ScalarType :=
  let part := floatOfWidth (greatestWidth (floatBits (types.contains float32)) types)
  if types.any isComplex then complexOfPart part else part

/-- The type of an arithmetic result on all of some operand types; there is none without
operands. -/
def joinAll (types : List ScalarType) : Option ScalarType :=
  if types.all isInteger then joinIntegers types else some (joinReals types)

/-- A bound on every width is a bound on the greatest. -/
theorem greatestWidth_le_iff {width : ScalarType → Nat} {types : List ScalarType} {bound : Nat} :
    greatestWidth width types ≤ bound ↔ ∀ type ∈ types, width type ≤ bound := by
  induction types with
  | nil => simp [greatestWidth]
  | cons type rest ih =>
    simp only [greatestWidth, List.map_cons, List.foldr_cons, List.mem_cons, forall_eq_or_imp] at ih ⊢
    rw [Nat.max_le, ih]

/-- A list has no greater width than one that holds all its types. -/
theorem greatestWidth_mono {width : ScalarType → Nat} {left right : List ScalarType}
    (h : ∀ type ∈ left, type ∈ right) : greatestWidth width left ≤ greatestWidth width right :=
  greatestWidth_le_iff.mpr fun type htype =>
    greatestWidth_le_iff.mp (Nat.le_refl _) type (h type htype)

/-- The greatest width depends only on which types there are. -/
theorem greatestWidth_eq_of_mem_iff {width : ScalarType → Nat} {left right : List ScalarType}
    (h : ∀ type, type ∈ left ↔ type ∈ right) :
    greatestWidth width left = greatestWidth width right :=
  Nat.le_antisymm (greatestWidth_mono fun type => (h type).mp)
    (greatestWidth_mono fun type => (h type).mpr)

end ScalarType

end StorageTyping
