import StorageTyping.Literal.Rendering

/-!
# Types of literals

Integral constants are sized by their value alone, whatever carries it: `int32` if it fits, else
`int64`. An untyped floating-point constant counts as single precision. An untyped complex
constant does so only if single precision holds both of its parts exactly; otherwise its size
has to be given.
-/

namespace StorageTyping

/-- The type of an integral constant. -/
def integerType (value : Int) : Except Cause StorageType :=
  if ScalarType.int32.holds value then .ok (.scalar .int32)
  else if ScalarType.int64.holds value then .ok (.scalar .int64)
  else .error (.integerTooLarge (toString value))

/-- Whether single precision holds a double-precision value exactly; it holds no not-a-number. -/
def fitsSingle (pattern : BitVec 64) : Bool :=
  BinaryFormat.single.holdsExactly (BinaryFormat.double.decode pattern)

/-- The type of a constant. -/
def Literal.storageType (literal : Literal) : Except Cause StorageType :=
  match literal.integer? with
  | some value => integerType value
  | none =>
    match literal with
    | .sized _ type => .ok type
    | .scalar value => .ok (.scalar value.type)
    | .float _ => .ok (.scalar .float32)
    | .complex re im =>
      if fitsSingle re && fitsSingle im then .ok (.scalar .complex64)
      else .error (.unsizedComplex literal.render)
    | _ => .error (.untypedLiteral literal.render)

/-- An integral constant is typed by its value. -/
theorem Literal.storageType_of_integer? {literal : Literal} {value : Int}
    (h : literal.integer? = some value) : literal.storageType = integerType value := by
  simp only [Literal.storageType, h]

end StorageTyping
