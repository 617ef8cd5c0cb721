import StorageTyping.StorageType.Join

/-!
# The mathematical library

The functions and constants of C mathematics that are known without being declared. All
arguments are scalars. Floating-point functions compute in double precision on integers and in
single precision on half-precision arguments, and their single-precision variants carry the
suffix `f`. Complex arguments are left to functions that a program declares.
-/

namespace StorageTyping

/-- A named constant. -/
structure Symbol where
  /-- The spelling in generated code. -/
  targetName : String
  type : StorageType
deriving DecidableEq

/-- A function resolved for the types of its arguments. -/
structure Signature where
  /-- The spelling in generated code. -/
  targetName : String
  arguments : List StorageType
  result : StorageType
deriving DecidableEq

namespace MathLibrary

/-- The families of functions, each with one rule for its result. -/
inductive Family where
  /-- A floating-point function of one argument. -/
  | unary
  /-- A floating-point function of two arguments. -/
  | binary
  /-- The magnitude of an integer. -/
  | magnitude
  /-- The smaller or the larger of two real numbers. -/
  | extremum
deriving DecidableEq, Repr

/-- The functions of the library. -/
def families : List (String × Family) :=
  [("sqrt", .unary), ("exp", .unary), ("log", .unary), ("sin", .unary), ("cos", .unary),
    ("tan", .unary), ("fabs", .unary), ("floor", .unary), ("ceil", .unary),
    ("pow", .binary), ("fmin", .binary), ("fmax", .binary), ("atan2", .binary), ("fmod", .binary),
    ("abs", .magnitude), ("min", .extremum), ("max", .extremum)]

/-- The precision in which a floating-point function computes on a type, if the type is real. -/
def computeType (type : ScalarType) : Option ScalarType :=
  match type.category with
  | .float => some (if type = .float64 then .float64 else .float32)
  | .signed | .unsigned => some .float64
  | _ => none

/-- The type of the result of a function on arguments of some types. -/
def Family.resultType : Family → List ScalarType → Option ScalarType
  | .unary, [type] => computeType type
  | .binary, [left, right] => (ScalarType.joinAll [left, right]).bind computeType
  | .magnitude, [type] => if type.isInteger then some type else none
  | .extremum, [left, right] =>
    if left.isComplex || right.isComplex then none else ScalarType.joinAll [left, right]
  | _, _ => none

/-- Whether the name of a function shows that it computes in single precision. -/
def Family.marksSingle : Family → Bool
  | .unary | .binary => true
  | .magnitude | .extremum => false

/-- The library function of a name on arguments of some types. -/
def function? (name : String) (arguments : List StorageType) : Option Signature := do
  let family ← families.lookup name
  let types ← arguments.mapM (·.scalar?)
  let result ← family.resultType types
  let suffix := if result = .float32 && family.marksSingle then "f" else ""
  return ⟨name ++ suffix, arguments, .scalar result⟩

/-- The constants of the library. -/
def constants : List (String × ScalarType) :=
  [("M_PI", .float64), ("M_E", .float64), ("M_SQRT2", .float64), ("M_LN2", .float64),
    ("INFINITY", .float32), ("NAN", .float32)]

/-- The library constant of a name. -/
def symbol? (name : String) : Option Symbol :=
  (constants.lookup name).map fun type => ⟨name, .scalar type⟩

/-- A library function is resolved for exactly the types asked for. -/
theorem arguments_of_function? {name : String} {arguments : List StorageType} {signature : Signature}
    (h : function? name arguments = some signature) : signature.arguments = arguments := by
  simp only [function?, bind, Option.bind_eq_some_iff, pure, Option.some.injEq] at h
  obtain ⟨family, -, types, -, result, -, rfl⟩ := h
  rfl

end MathLibrary

end StorageTyping
