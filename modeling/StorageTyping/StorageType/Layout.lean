import StorageTyping.StorageType.Basic

/-!
# Layout of custom types

The constructors that compute a custom type's fields, size and alignment. A record follows the
layout of a C structure: every field at the next multiple of its alignment, the whole padded to
the largest alignment. A vector has equal lanes that are reached under two families of names. A
blob has a size and no fields. Sizes and offsets are numbers of bytes without an upper bound.
-/

namespace StorageTyping

/-- The least multiple of a positive step that is not below an offset. -/
def alignUp (offset step : Nat) : Nat := (offset + step - 1) / step * step

namespace StorageType

/-- The alignment of a type as a part of a record, where an alignment of zero counts as one. -/
def fieldAlignment (type : StorageType) : Nat := max 1 type.alignment

/-- Place fields one after the other from an offset on; also the offset where the last one ends. -/
def placeFields : Nat → List (String × StorageType) → List (Field StorageType) × Nat
  | offset, [] => ([], offset)
  | offset, (name, type) :: rest =>
    let start := alignUp offset type.fieldAlignment
    let (placed, stop) := placeFields (start + type.size) rest
    (⟨name, type, start⟩ :: placed, stop)

/-- The largest alignment among the fields of a record, at least one. -/
def recordAlignment (fields : List (String × StorageType)) : Nat :=
  (fields.map fun field => field.2.fieldAlignment).foldr max 1

/-- The record of some named fields in order. -/
def record (name : String) (fields : List (String × StorageType)) : StorageType :=
  let (placed, stop) := placeFields 0 fields
  let alignment := recordAlignment fields
  .custom name .record (alignUp stop alignment) alignment placed

/-- The name by which vectors of a scalar type start. -/
def vectorStem : ScalarType → String
  | .int8 => "char"
  | .uint8 => "uchar"
  | .int16 => "short"
  | .uint16 => "ushort"
  | .int32 => "int"
  | .uint32 => "uint"
  | .int64 => "long"
  | .uint64 => "ulong"
  | .float16 => "half"
  | .float32 => "float"
  | .float64 => "double"
  | .complex64 => "cfloat"
  | .complex128 => "cdouble"

/-- The lane of a vector under a name. -/
def lane (element : ScalarType) (name : String) (index : Nat) : Field StorageType :=
  ⟨name, .scalar element, index * element.size⟩

/-- The names of the first four lanes, in order. -/
def componentNames : List String := ["x", "y", "z", "w"]

/-- The vector of a number of lanes. The first four are reached as `x`, `y`, `z` and `w`, and
every lane as `s` and its number; three lanes take up the room of four. -/
def vector (element : ScalarType) (count : Nat) : StorageType :=
  let size := (if count = 3 then 4 else count) * element.size
  .custom (vectorStem element ++ toString count) .vector size size
    ((componentNames.take count).mapIdx (fun index name => lane element name index) ++
      (List.range count).map fun index => lane element ("s" ++ toString index) index)

/-- The blob of a size, which is aligned to its size. -/
def blob (name : String) (size : Nat) : StorageType :=
  .custom name .blob size (max 1 size) []

end StorageType

/-- Aligning goes up by less than a step, to a multiple of it. -/
theorem alignUp_spec (offset : Nat) {step : Nat} (h : 0 < step) :
    step ∣ alignUp offset step ∧ offset ≤ alignUp offset step ∧ alignUp offset step < offset + step := by
  refine ⟨Nat.dvd_mul_left _ _, ?_⟩
  have hdiv := Nat.div_add_mod (offset + step - 1) step
  have hmod := Nat.mod_lt (offset + step - 1) h
  have hmul : step * ((offset + step - 1) / step) = alignUp offset step := Nat.mul_comm _ _
  omega

end StorageTyping
