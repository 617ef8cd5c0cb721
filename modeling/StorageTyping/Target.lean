import StorageTyping.StorageType.Basic

/-!
# Targets and numeric contexts

A target is the platform that code is generated for. What matters here is whether it has vector
types of its own. The numeric context of a type says how literals are spelled where a value of
that type is expected; a vector on a target with vector types has the context of its first
lane.
-/

namespace StorageTyping

/-- A platform that code is generated for. -/
structure Target where
  name : String
  /-- Whether the platform has vector types. -/
  vectorTypes : Bool
deriving DecidableEq, Repr

namespace Target

/-- Plain C, without vector types. -/
def c : Target := ⟨"c", false⟩

/-- OpenCL C, with vector types. -/
def opencl : Target := ⟨"opencl", true⟩

/-- Whether a type is a vector type of the platform. -/
def isVector (target : Target) (type : StorageType) : Bool :=
  target.vectorTypes && type.category = .vector

end Target

/-- How literals are spelled where a value of some type is expected. -/
inductive NumericContext where
  | integer
  | doublePrecision
  | singlePrecision
deriving DecidableEq, Repr

namespace NumericContext

/-- The letter for a context. -/
def code : NumericContext → Char
  | integer => 'i'
  | doublePrecision => 'd'
  | singlePrecision => 'f'

/-- The context of a scalar type. Unsigned integers and half precision have none. -/
def ofScalar? : ScalarType → Option NumericContext
  | .int8 | .int16 | .int32 | .int64 => some integer
  | .float64 | .complex128 => some doublePrecision
  | .float32 | .complex64 => some singlePrecision
  | _ => none

mutual

/-- The context of a type on a target. -/
def ofType? (target : Target) : StorageType → Option NumericContext
  | .scalar type => ofScalar? type
  | .custom _ category _ _ fields =>
    if target.vectorTypes ∧ category = .vector then ofFirstLane? target fields else none

/-- The context of the first field that is named as the first lane of a vector. -/
def ofFirstLane? (target : Target) : List (Field StorageType) → Option NumericContext
  | [] => none
  | ⟨name, type, _⟩ :: rest => if name = "x" then ofType? target type else ofFirstLane? target rest

end

end NumericContext

end StorageTyping
