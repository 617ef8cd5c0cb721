import StorageTyping.Expr.Rendering
import StorageTyping.Inference.Logged
import StorageTyping.Literal.Typing
import StorageTyping.Scope.Basic

/-!
# Inference of storage types

The type that the value of an expression occupies, from the types of what it refers to. The
operands of a node are inferred in order and the first of them that fails ends the whole; a
failure that arises at a node itself is located there. Some positions are not looked at: the
index of an element access, a callee, and the operands of comparisons and logical operators,
whose results are truth values of type `int32` in any case.

All that inference asks of a scope is what a name stands for, which type a call gives, and the
target, which it hands on to reductions. These are a `Context`, so two scopes that answer alike are
interchangeable.
-/

namespace StorageTyping

/-- What a name stands for. -/
inductive Standing where
  | known (type : StorageType)
  /-- It is declared, but its type is not determined yet. -/
  | undetermined (role : Role)
  | unknown
deriving DecidableEq

/-- What inference asks of its surroundings. -/
structure Context where
  standing : String → Standing
  /-- The type of a call, by the name of the function and the types of the arguments. -/
  callType? : String → List StorageType → Option StorageType
  target : Target

/-- What a declaration, if there is one, says about its name. -/
def Standing.ofDeclaration? : Option Declaration → Standing
  | some ⟨_, some type⟩ => .known type
  | some ⟨role, none⟩ => .undetermined role
  | none => .unknown

namespace Scope

/-- What a name stands for: a loop index, or else a constant, or else what is declared. -/
def standing (scope : Scope) (pending : Pending) (name : String) : Standing :=
  if scope.isIndex name then .known scope.indexType
  else match scope.symbol? name with
    | some symbol => .known symbol.type
    | none => .ofDeclaration? (scope.declaration? pending name)

/-- The surroundings that a scope and pending declarations give. -/
def context (scope : Scope) (pending : Pending) : Context where
  standing := scope.standing pending
  callType? name arguments := (scope.function? name arguments).map (·.result)
  target := scope.target

end Scope

/-- The type of a use of a name; a declared name without a type is reported and deferred. -/
def Context.typeOfName (context : Context) (location : String) (name : String) : Logged StorageType :=
  match context.standing name with
  | .known type => pure type
  | .undetermined role => do
    .report (.dependencyUnresolved name role)
    .fail (.waiting name role)
  | .unknown => .fail (.rejected (.undeclared name) (some location))

/-- The type of a field of a value of some type. -/
def fieldType (type : StorageType) (name : String) : Except Cause StorageType :=
  match type.field name with
  | .ok field => .ok field.type
  | .error .notRecord => .error (.notRecord type name)
  | .error .missing => .error (.missingField type name)

/-- The type of a result on two operands. Division of integers gives `float64`; every other
operator combines the types of its operands. -/
def BinaryOp.resultType (op : BinaryOp) (left right : StorageType) : Except Cause StorageType :=
  if op = .quotient && left.isInteger && right.isInteger then .ok (.scalar .float64)
  else StorageType.joinAll [left, right]

/-- An operand of a sum or product: its value if it is a small integral constant, and its type. -/
abbrev Operand := Option Int × StorageType

/-- The types of the operands that are not small constants. -/
def decidingTypes (operands : List Operand) : List StorageType :=
  (operands.filter fun operand => operand.1.isNone).map (·.2)

/-- The type of a sum or product. Small constants take part in the choice only among signed
operands; any other type is expected to hold them, and they must not widen it. -/
def accumulatedType (operands : List Operand) : Except Cause StorageType :=
  if (decidingTypes operands).all (·.isSigned) then StorageType.joinAll (operands.map (·.2))
  else StorageType.joinAll (decidingTypes operands)

/-- A warning for each small constant that had no part in the choice of a type and does not fit
it, in order. -/
def droppedLiterals (operands : List Operand) (type : StorageType) : List Event :=
  if (decidingTypes operands).all (·.isSigned) then []
  else (operands.filterMap (·.1)).filterMap fun value =>
    if type.holds value then none else some (.literalDropped value type)

mutual

/-- The type of an expression. -/
def infer (context : Context) : Expr → Logged StorageType
  | .literal value => .ofRule (some value.render) value.storageType
  | .reference name tag => context.typeOfName (Expr.reference name tag).render name
  | .element _ aggregate _ => infer context aggregate
  | .field aggregate name => do
    let type ← infer context aggregate
    .ofRule (some (Expr.field aggregate name).render) (fieldType type name)
  | .accumulation op operands => do
    let types ← inferAll context operands
    let inferred := (operands.map (·.small?)).zip types
    let type ← .ofRule (some (Expr.accumulation op operands).render) (accumulatedType inferred)
    .reportAll (droppedLiterals inferred type)
    return type
  | .binary op left right => do
    let leftType ← infer context left
    let rightType ← infer context right
    .ofRule (some (Expr.binary op left right).render) (op.resultType leftType rightType)
  | .call callee arguments => do
    let types ← inferAll context arguments
    match context.callType? callee.calleeName types with
    | some type => return type
    | none =>
      .fail (.rejected (.unknownSignature callee.calleeName types)
        (some (Expr.call callee arguments).render))
  | .comparison .. => return .scalar .int32
  | .negation _ => return .scalar .int32
  | .junction .. => return .scalar .int32
  | .conditional condition consequent alternative => do
    let _ ← infer context condition
    let left ← infer context consequent
    let right ← infer context alternative
    .ofRule (some (Expr.conditional condition consequent alternative).render)
      (StorageType.joinAll [left, right])
  | .reduction op operand indices => do
    let type ← infer context operand
    .ofAnswer (Expr.reduction op operand indices).render (op.resultType context.target type indices)

/-- The types of expressions, inferred in order. -/
def inferAll (context : Context) : List Expr → Logged (List StorageType)
  | [] => return []
  | expr :: rest => do
    let type ← infer context expr
    let types ← inferAll context rest
    return type :: types

end

/-- A line about the names that are pending in an inference, for debugging. -/
def Pending.summary (pending : Pending) : String :=
  "TypeInferenceEngine \x7b new_assignments: [" ++ ", ".intercalate (pending.names.map Text.quote) ++
    "], .. \x7d"

/-- The type of an expression in a scope. -/
def Scope.infer (scope : Scope) (pending : Pending) (expr : Expr) : Logged StorageType :=
  StorageTyping.infer (scope.context pending) expr

end StorageTyping
