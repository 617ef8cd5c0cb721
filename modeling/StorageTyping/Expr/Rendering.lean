import StorageTyping.Expr.Basic
import StorageTyping.Literal.Rendering

/-!
# Rendering of expressions

The text of an expression, as failures show it and as computed callees are looked up by. Every
operator has a binding strength, and an operand that binds more loosely than its place asks for
is put in parentheses. The operands of a sum, a product, a conjunction or a disjunction must
bind more tightly than the operator itself, so nested ones of a kind stay visible. Division
groups to the left and the power to the right.
-/

namespace StorageTyping

namespace Strength

/-- The strength that every expression has at least. -/
def loosest : Nat := 0

/-- The strength of a disjunction. -/
def disjunction : Nat := 1

/-- The strength of a conjunction. -/
def conjunction : Nat := 2

/-- The strength of a negation. -/
def negation : Nat := 3

/-- The strength of a comparison. -/
def comparison : Nat := 4

/-- The strength of a sum. -/
def sum : Nat := 5

/-- The strength of products and divisions. -/
def product : Nat := 6

/-- The strength of a power. -/
def power : Nat := 7

/-- The strength of what needs no parentheses anywhere. -/
def atom : Nat := 8

end Strength

/-- The strength of an operator on two operands. -/
def BinaryOp.strength : BinaryOp → Nat
  | .power => Strength.power
  | _ => Strength.product

/-- The operator between its operands. -/
def BinaryOp.symbol : BinaryOp → String
  | .quotient => " / "
  | .floorQuotient => " // "
  | .remainder => " % "
  | .power => "**"

/-- The strengths asked of the left and the right operand. -/
def BinaryOp.operandStrengths : BinaryOp → Nat × Nat
  | .power => (Strength.atom, Strength.power)
  | _ => (Strength.product, Strength.power)

/-- The strength of an operator on any number of operands. -/
def Accumulation.strength : Accumulation → Nat
  | .sum => Strength.sum
  | .product => Strength.product

/-- The operator between its operands. -/
def Accumulation.symbol : Accumulation → String
  | .sum => " + "
  | .product => "*"

/-- The strength of a logical operator. -/
def Junction.strength : Junction → Nat
  | .conjunction => Strength.conjunction
  | .disjunction => Strength.disjunction

/-- The operator between its operands. -/
def Junction.symbol : Junction → String
  | .conjunction => " and "
  | .disjunction => " or "

/-- The sign of a relation. -/
def Relation.symbol : Relation → String
  | .equal => "=="
  | .unequal => "!="
  | .less => "<"
  | .atMost => "<="
  | .greater => ">"
  | .atLeast => ">="

/-- Every relation. -/
def Relation.all : List Relation := [.equal, .unequal, .less, .atMost, .greater, .atLeast]

/-- The relation of a sign. -/
def Relation.ofSymbol? (symbol : String) : Option Relation :=
  all.find? fun relation => relation.symbol = symbol

/-- The strength of a constant: a complex one with a real part is a sum. -/
def Literal.strength : Literal → Nat
  | .complex re _ => if (BinaryFormat.double.decode re).isZero then Strength.atom else Strength.sum
  | _ => Strength.atom

namespace Expr

/-- How strongly the outermost operator of an expression binds. -/
def strength : Expr → Nat
  | .literal value => value.strength
  | .accumulation op _ => op.strength
  | .binary op _ _ => op.strength
  | .comparison .. => Strength.comparison
  | .negation _ => Strength.negation
  | .junction op _ => op.strength
  | _ => Strength.atom

/-- The text of an operand at a place that asks for a strength. -/
def enclose (asked : Nat) (operand : Expr) (text : String) : String :=
  if operand.strength < asked then "(" ++ text ++ ")" else text

mutual

/-- The text of an expression. -/
def render : Expr → String
  | .literal value => value.render
  | .reference name none => name
  | .reference name (some tag) => name ++ "$" ++ tag
  | .element _ aggregate index =>
    enclose Strength.atom aggregate (render aggregate) ++ "[" ++ render index ++ "]"
  | .field aggregate name => enclose Strength.atom aggregate (render aggregate) ++ "." ++ name
  | .accumulation op operands => op.symbol.intercalate (renderAll (op.strength + 1) operands)
  | .binary op left right =>
    enclose op.operandStrengths.1 left (render left) ++ op.symbol ++
      enclose op.operandStrengths.2 right (render right)
  | .call callee arguments =>
    enclose Strength.atom callee (render callee) ++ "(" ++
      ", ".intercalate (renderAll Strength.loosest arguments) ++ ")"
  | .comparison left relation right =>
    enclose Strength.sum left (render left) ++ " " ++ relation.symbol ++ " " ++
      enclose Strength.sum right (render right)
  | .negation operand => "not " ++ enclose Strength.negation operand (render operand)
  | .junction op operands => op.symbol.intercalate (renderAll (op.strength + 1) operands)
  | .conditional condition consequent alternative =>
    "If(" ++ render condition ++ ", " ++ render consequent ++ ", " ++ render alternative ++ ")"
  | .reduction op operand [index] => op.name ++ "(" ++ index ++ ", " ++ render operand ++ ")"
  | .reduction op operand indices =>
    op.name ++ "((" ++ ", ".intercalate indices ++ "), " ++ render operand ++ ")"

/-- The texts of operands that are all asked for the same strength. -/
def renderAll (asked : Nat) : List Expr → List String
  | [] => []
  | operand :: rest => enclose asked operand (render operand) :: renderAll asked rest

end

/-- Operands are rendered one by one. -/
theorem renderAll_eq_map (asked : Nat) (operands : List Expr) :
    renderAll asked operands = operands.map fun operand => enclose asked operand (render operand) := by
  induction operands with
  | nil => rfl
  | cons operand rest ih => simp [renderAll, ih]

/-- The name under which a callee is looked up: a name without its tag, or else the text of the
expression. -/
def calleeName : Expr → String
  | .reference name _ => name
  | callee => callee.render

end Expr

end StorageTyping
