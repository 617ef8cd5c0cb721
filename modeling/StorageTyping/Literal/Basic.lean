import StorageTyping.Binary.Rounding
import StorageTyping.Inference.Failure

/-!
# Literals

Constants of an expression. Integers and booleans are integral whatever their carrier; an
untyped floating-point or complex constant has a value but no declared size; a typed scalar and
a sized constant bring their type along. Floating-point values are held as bit patterns.
-/

namespace StorageTyping

/-- A value of a scalar type. An integer comes with the proof that its type holds it. -/
inductive ScalarValue where
  | integer (type : ScalarType) (value : Int)
    (fits : type.isInteger = true ∧ type.holds value = true)
  | float16 (pattern : BitVec 16)
  | float32 (pattern : BitVec 32)
  | float64 (pattern : BitVec 64)
  | complex64 (re im : BitVec 32)
  | complex128 (re im : BitVec 64)
deriving DecidableEq

namespace ScalarValue

/-- The type of a value. -/
def type : ScalarValue → ScalarType
  | .integer type .. => type
  | .float16 _ => .float16
  | .float32 _ => .float32
  | .float64 _ => .float64
  | .complex64 .. => .complex64
  | .complex128 .. => .complex128

/-- The integer, if the value is of an integer type. -/
def integer? : ScalarValue → Option Int
  | .integer _ value _ => some value
  | _ => none

/-- A value of an integer type, if the type is one and holds the integer. -/
def ofInteger? (type : ScalarType) (value : Int) : Option ScalarValue :=
  if fits : type.isInteger = true ∧ type.holds value = true then some (.integer type value fits)
  else none

end ScalarValue

/-- A constant. -/
inductive Literal where
  | integer (value : Int)
  | boolean (value : Bool)
  /-- A floating-point value of no declared size. -/
  | float (pattern : BitVec 64)
  /-- A complex value of no declared size. -/
  | complex (re im : BitVec 64)
  | scalar (value : ScalarValue)
  /-- A constant, known by how it is written, that brings its type along. -/
  | sized (written : String) (type : StorageType)
  /-- A constant that is not a number. -/
  | text (value : String)
deriving DecidableEq

namespace Literal

/-- The value of an integral constant; a floating-point value is never integral. -/
def integer? : Literal → Option Int
  | .integer value => some value
  | .boolean value => some (if value then 1 else 0)
  | .scalar value => value.integer?
  | _ => none

/-- The type of a typed scalar constant. -/
def scalarType? : Literal → Option ScalarType
  | .scalar value => some value.type
  | _ => none

/-- Integral constants below this magnitude are small. -/
def smallLimit : Nat := 1024

/-- The value of a small integral constant. -/
def small? (literal : Literal) : Option Int :=
  literal.integer?.filter fun value => value.natAbs < smallLimit

/-- Every small integral constant is below the limit. -/
theorem natAbs_lt_of_small? {literal : Literal} {value : Int} (h : literal.small? = some value) :
    value.natAbs < smallLimit := by
  simpa using (Option.filter_eq_some_iff.mp h).2

end Literal

end StorageTyping
