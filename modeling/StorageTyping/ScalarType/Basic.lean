import StorageTyping.Binary.Format
import StorageTyping.Text.Blank

/-!
# Scalar types

The thirteen numeric types with built-in arithmetic: signed and unsigned integers, binary
floating-point numbers, and complex numbers, which are named by their total width and hold two
floating-point parts.

A type is described by its category and its width; the layout, the range of integers that it
holds and its name follow from these.
-/

namespace StorageTyping

/-- The coarse classification of storage types. -/
inductive Category where
  | signed
  | unsigned
  | float
  | complex
  | record
  | vector
  /-- A type of known size and unknown structure. -/
  | blob
deriving DecidableEq, Repr

/-- The word for a category. -/
def Category.name : Category → String
  | .signed => "signed"
  | .unsigned => "unsigned"
  | .float => "float"
  | .complex => "complex"
  | .record => "record"
  | .vector => "vector"
  | .blob => "opaque"

/-- A numeric type with built-in arithmetic. -/
inductive ScalarType where
  | int8
  | int16
  | int32
  | int64
  | uint8
  | uint16
  | uint32
  | uint64
  | float16
  | float32
  | float64
  | complex64
  | complex128
deriving DecidableEq, Repr

namespace ScalarType

/-- Every scalar type, integers first. -/
def all : List ScalarType :=
  [int8, int16, int32, int64, uint8, uint16, uint32, uint64, float16, float32, float64, complex64,
    complex128]

/-- The name under which a type is read and shown. -/
def name : ScalarType → String
  | int8 => "int8"
  | int16 => "int16"
  | int32 => "int32"
  | int64 => "int64"
  | uint8 => "uint8"
  | uint16 => "uint16"
  | uint32 => "uint32"
  | uint64 => "uint64"
  | float16 => "float16"
  | float32 => "float32"
  | float64 => "float64"
  | complex64 => "complex64"
  | complex128 => "complex128"

/-- The category of a type, one of the four numeric ones. -/
def category : ScalarType → Category
  | int8 | int16 | int32 | int64 => .signed
  | uint8 | uint16 | uint32 | uint64 => .unsigned
  | float16 | float32 | float64 => .float
  | complex64 | complex128 => .complex

/-- The size in bytes. -/
def size : ScalarType → Nat
  | int8 | uint8 => 1
  | int16 | uint16 | float16 => 2
  | int32 | uint32 | float32 => 4
  | int64 | uint64 | float64 | complex64 => 8
  | complex128 => 16

/-- The width in bits, both parts of a complex type counted. -/
def bits (type : ScalarType) : Nat := type.size * 8

/-- The type of the real part, which of a real type is the type itself. -/
def part : ScalarType → ScalarType
  | complex64 => float32
  | complex128 => float64
  | type => type

/-- The alignment in bytes; a complex type is aligned as its parts are. -/
def alignment (type : ScalarType) : Nat := type.part.size

/-- Whether a type is a signed or unsigned integer type. -/
def isInteger (type : ScalarType) : Bool :=
  type.category = .signed || type.category = .unsigned

/-- Whether a type is a complex type. -/
def isComplex (type : ScalarType) : Bool := type.category = .complex

/-- The binary format of the values, or of the parts, of a type that is not an integer type. -/
def format? : ScalarType → Option BinaryFormat
  | float16 => some .half
  | float32 | complex64 => some .single
  | float64 | complex128 => some .double
  | _ => none

/-- Whether an integer lies in the range in which a type holds every integer exactly. For a
floating-point type this is the range up to two to the number of its significant bits, in which
the implicit leading one counts. -/
def holds (type : ScalarType) (value : Int) : Bool :=
  match type.format? with
  | some format => value.natAbs ≤ Nat.pow 2 format.precision
  | none =>
    let signedBound : Int := Nat.pow 2 (type.bits - 1)
    if type.category = .signed then -signedBound ≤ value && value < signedBound
    else 0 ≤ value && value < 2 * signedBound

/-- Read a name without blanks around it: a type's own name or one of four short names. -/
def ofName? (name : String) : Option ScalarType :=
  (all.find? fun type => type.name = name).or <|
    match name with
    | "int" => some int32
    | "long" => some int64
    | "float" => some float32
    | "double" => some float64
    | _ => none

end ScalarType

/-- The complaint that a text, shown without the blanks around it, names no scalar type. -/
structure UnknownScalarName where
  name : String
deriving DecidableEq, Repr

/-- The wording of the complaint. -/
def UnknownScalarName.message (complaint : UnknownScalarName) : String :=
  "unknown dtype name '" ++ complaint.name ++ "'"

namespace ScalarType

/-- Read a type's name, with blanks around it or not. -/
def read (text : String) : Except UnknownScalarName ScalarType :=
  match ofName? (Text.trim text) with
  | some type => .ok type
  | none => .error ⟨Text.trim text⟩

/-- The list of all types misses none. -/
theorem mem_all (type : ScalarType) : type ∈ all := by cases type <;> decide

theorem category_eq_signed_iff {type : ScalarType} :
    type.category = .signed ↔ type = int8 ∨ type = int16 ∨ type = int32 ∨ type = int64 := by
  cases type <;> decide

theorem category_eq_unsigned_iff {type : ScalarType} :
    type.category = .unsigned ↔ type = uint8 ∨ type = uint16 ∨ type = uint32 ∨ type = uint64 := by
  cases type <;> decide

theorem category_eq_float_iff {type : ScalarType} :
    type.category = .float ↔ type = float16 ∨ type = float32 ∨ type = float64 := by
  cases type <;> decide

/-- Every type is read back from its own name. -/
theorem ofName?_name (type : ScalarType) : ofName? type.name = some type := by
  cases type <;> decide

/-- The types without a binary format are the integer types. -/
theorem format?_eq_none_iff (type : ScalarType) : type.format? = none ↔ type.isInteger = true := by
  cases type <;> decide

end ScalarType

end StorageTyping
