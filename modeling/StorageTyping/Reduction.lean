import StorageTyping.Inference.Failure
import StorageTyping.StorageType.Layout
import StorageTyping.Target

/-!
# Reductions

The operations that fold an operand over loop indices. An operation decides on the type of its
result itself, and whoever brings it along decides how (`ReductionOperation`): it may also fail or wait
for something, but when it is asked the same again it gives the same answer.

Six operations are built in (`Reduction`). Most keep the type of the operand; the two that also look
for the place of the extreme value give a record of value and index.
-/

namespace StorageTyping

/-- An operation that folds an operand over loop indices. -/
structure ReductionOperation where
  name : String
  /-- The type of the result on a target, from the type of the operand and the loop indices. -/
  resultType : Target → StorageType → List String → Except Failure StorageType

/-- A built-in operation. -/
inductive Reduction where
  | sum
  | product
  | max
  | min
  | argmax
  | argmin
deriving DecidableEq, Repr

namespace Reduction

/-- Every built-in operation. -/
def all : List Reduction := [sum, product, max, min, argmax, argmin]

/-- The name under which an operation is read and shown. -/
def name : Reduction → String
  | sum => "sum"
  | product => "product"
  | max => "max"
  | min => "min"
  | argmax => "argmax"
  | argmin => "argmin"

/-- The built-in operation of a name. -/
def ofName? (name : String) : Option Reduction := all.find? fun reduction => reduction.name = name

/-- Whether an operation also gives the place of the extreme value. -/
def givesIndex : Reduction → Bool
  | argmax | argmin => true
  | _ => false

/-- The type of the index that such an operation gives. -/
def indexType : StorageType := .scalar .int32

/-- The record of an extreme value of some type and its index. -/
def valueIndexPair (type : StorageType) : StorageType :=
  .record (type.name ++ "_" ++ indexType.name ++ "_pair") [("value", type), ("index", indexType)]

/-- The type of the result on an operand of some type. -/
def resultType (reduction : Reduction) (type : StorageType) : StorageType :=
  if reduction.givesIndex then valueIndexPair type else type

/-- A built-in operation has a result on every operand, whatever the target and the indices. -/
def operation (reduction : Reduction) : ReductionOperation where
  name := reduction.name
  resultType _ type _ := .ok (reduction.resultType type)

instance : Coe Reduction ReductionOperation := ⟨operation⟩

/-- Every built-in operation is read back from its own name. -/
theorem ofName?_name (reduction : Reduction) : ofName? reduction.name = some reduction := by
  cases reduction <;> decide

end Reduction

/-- The complaint that a text names no reduction. -/
structure UnknownReduction where
  name : String
deriving DecidableEq, Repr

/-- The wording of the complaint. -/
def UnknownReduction.message (complaint : UnknownReduction) : String :=
  "unknown reduction operation '" ++ complaint.name ++ "'"

/-- Read the name of a reduction. -/
def Reduction.read (name : String) : Except UnknownReduction Reduction :=
  match ofName? name with
  | some reduction => .ok reduction
  | none => .error ⟨name⟩

end StorageTyping
