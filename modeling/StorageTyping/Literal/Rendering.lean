import StorageTyping.Decimal.Notation
import StorageTyping.Literal.Basic
import StorageTyping.Text.Quoted

/-!
# Rendering of literals

The text of a constant in a rendered expression. Floating-point constants are written in the
marked form, so that `3.0` is not taken for an integer; the parts of a complex constant and
half-precision values are written in the plain form. A complex constant without a real part is
its imaginary part alone, any other is a parenthesised sum.
-/

namespace StorageTyping

/-- A complex value in double precision. -/
def complexText (re im : Datum) : String :=
  let plain := Datum.toText .double .plain
  if re.isZero then plain im ++ "j"
  else if im.negative then "(" ++ plain re ++ "-" ++ plain im.negate ++ "j)"
  else "(" ++ plain re ++ "+" ++ plain im ++ "j)"

/-- The digits of a scalar value. Half precision is written as the single-precision value that
it equals, and single-precision parts of a complex value as double-precision ones. -/
def ScalarValue.valueText : ScalarValue → String
  | .integer _ value _ => toString value
  | .float16 pattern =>
    (BinaryFormat.single.convert (BinaryFormat.half.decode pattern)).toText .single .plain
  | .float32 pattern => (BinaryFormat.single.decode pattern).toText .single .marked
  | .float64 pattern => (BinaryFormat.double.decode pattern).toText .double .marked
  | .complex64 re im =>
    complexText (BinaryFormat.double.convert (BinaryFormat.single.decode re))
      (BinaryFormat.double.convert (BinaryFormat.single.decode im))
  | .complex128 re im => complexText (BinaryFormat.double.decode re) (BinaryFormat.double.decode im)

/-- A scalar value as a call of its type. -/
def ScalarValue.render (value : ScalarValue) : String :=
  value.type.name ++ "(" ++ value.valueText ++ ")"

/-- The text of a constant. -/
def Literal.render : Literal → String
  | .integer value => toString value
  | .boolean value => if value then "true" else "false"
  | .float pattern => (BinaryFormat.double.decode pattern).toText .double .marked
  | .complex re im => complexText (BinaryFormat.double.decode re) (BinaryFormat.double.decode im)
  | .scalar value => value.render
  | .sized written _ => written
  | .text value => Text.quote value

end StorageTyping
