import StorageTyping.Literal.Basic
import StorageTyping.Reduction

/-!
# Expressions

Kernel expressions: constants and names, access to elements and fields, arithmetic, calls,
comparisons and logic, choice, and reductions over loop indices.
-/

namespace StorageTyping

/-- How an element of an aggregate is addressed: by its indices or by one flattened index. -/
inductive Addressing where
  | indexed
  | flattened
deriving DecidableEq, Repr

/-- The arithmetic operators on any number of operands. -/
inductive Accumulation where
  | sum
  | product
deriving DecidableEq, Repr

/-- The arithmetic operators on two operands. -/
inductive BinaryOp where
  | quotient
  | floorQuotient
  | remainder
  | power
deriving DecidableEq, Repr

/-- The logical operators on any number of operands. -/
inductive Junction where
  | conjunction
  | disjunction
deriving DecidableEq, Repr

/-- The relations of a comparison. -/
inductive Relation where
  | equal
  | unequal
  | less
  | atMost
  | greater
  | atLeast
deriving DecidableEq, Repr

/-- A kernel expression. -/
inductive Expr where
  | literal (value : Literal)
  /-- A use of a name, which may carry a tag. -/
  | reference (name : String) (tag : Option String)
  | element (addressing : Addressing) (aggregate index : Expr)
  | field (aggregate : Expr) (name : String)
  | accumulation (op : Accumulation) (operands : List Expr)
  | binary (op : BinaryOp) (left right : Expr)
  | call (callee : Expr) (arguments : List Expr)
  | comparison (left : Expr) (relation : Relation) (right : Expr)
  | negation (operand : Expr)
  | junction (op : Junction) (operands : List Expr)
  | conditional (condition consequent alternative : Expr)
  /-- An operand folded over loop indices. -/
  | reduction (op : ReductionOperation) (operand : Expr) (indices : List String)

namespace Expr

/-- The constant, if the expression is one. -/
def literal? : Expr → Option Literal
  | .literal value => some value
  | _ => none

/-- The value of a small integral constant. -/
def small? (expr : Expr) : Option Int := expr.literal?.bind (·.small?)

end Expr

end StorageTyping
