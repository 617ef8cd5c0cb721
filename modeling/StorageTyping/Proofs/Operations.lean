import StorageTyping.Proofs.Inspection

/-!
# What is asked of reduction operations

An operation may answer as it likes, and most of what holds of inference holds for any operation. Where it
does not, an operation is asked to keep to its own business. It is given the type of its operand and knows of
no names, so it has none to wait for (`NeverWaits`); which temporaries are unresolved is for a resolution to
say (`NeverUnresolved`); and where it stands it does not know either (`NeverPlaced`).

The built-in operations have a result on every operand, so they do all of this. Those that do not look for
the place of an extreme value keep the type of their operand (`Reduction.keepsType_iff`).
-/

namespace StorageTyping

namespace ReductionOperation

/-- An operation that never defers. -/
def NeverWaits (op : ReductionOperation) : Prop :=
  ∀ target type indices name role, op.resultType target type indices ≠ .error (.waiting name role)

/-- An operation that never fails for unresolved temporaries. -/
def NeverUnresolved (op : ReductionOperation) : Prop :=
  ∀ target type indices names location,
    op.resultType target type indices ≠ .error (.rejected (.unresolved names) location)

/-- An operation that leaves it to inference to place its failures. -/
def NeverPlaced (op : ReductionOperation) : Prop :=
  ∀ target type indices cause location,
    op.resultType target type indices ≠ .error (.rejected cause (some location))

/-- An operation with results of the type of its operand. -/
def KeepsType (op : ReductionOperation) : Prop :=
  ∀ target type indices, op.resultType target type indices = .ok type

end ReductionOperation

namespace Reduction

variable (reduction : Reduction)

theorem neverWaits : reduction.operation.NeverWaits := nofun

theorem neverUnresolved : reduction.operation.NeverUnresolved := nofun

theorem neverPlaced : reduction.operation.NeverPlaced := nofun

end Reduction

/-- An operation that is not built in: the bitwise exclusive or, which is for integers only. -/
def exclusiveOr : ReductionOperation where
  name := "xor"
  resultType _ type _ :=
    if type.isInteger then .ok type else .error (.rejected (.mismatch type (.scalar .int64)) none)

namespace Expr

/-- The operation of an expression, if it is a reduction. -/
def operation? : Expr → Option ReductionOperation
  | .reduction op _ _ => some op
  | _ => none

/-- The operations of the reductions that inference meets in an expression. -/
def operations (expr : Expr) : List ReductionOperation := expr.inspected.filterMap operation?

/-- The operations of the reductions that inference meets in an expression have a property. -/
def ReducesBy (expr : Expr) (property : ReductionOperation → Prop) : Prop :=
  ∀ op ∈ expr.operations, property op

variable {expr : Expr} {property : ReductionOperation → Prop}

/-- The operation of a reduction that inference meets has the property of all. -/
theorem ReducesBy.of_reduction_mem (h : expr.ReducesBy property) {op : ReductionOperation} {operand : Expr}
    {indices : List String} (hmem : .reduction op operand indices ∈ expr.inspected) : property op :=
  h op (List.mem_filterMap.mpr ⟨_, hmem, rfl⟩)

theorem ReducesBy.of_reduction {op : ReductionOperation} {operand : Expr} {indices : List String}
    (h : (reduction op operand indices).ReducesBy property) : property op :=
  h.of_reduction_mem (mem_inspected_self _)

theorem ReducesBy.of_mem_inspected (h : expr.ReducesBy property) {sub : Expr} (hsub : sub ∈ expr.inspected) :
    sub.ReducesBy property := by
  intro op hop
  obtain ⟨node, hnode, hself⟩ := List.mem_filterMap.mp hop
  exact h op (List.mem_filterMap.mpr ⟨node, mem_inspected_of_mem_inspected hsub hnode, hself⟩)

/-- Built-in operations have whatever property all of them have. -/
theorem reducesBy_of_builtIn (reductions : List Reduction)
    (h : expr.operations = reductions.map (·.operation)) (hall : ∀ reduction : Reduction,
      property reduction.operation) : expr.ReducesBy property := by
  rw [ReducesBy, h]
  exact List.forall_mem_map.mpr fun reduction _ => hall reduction

end Expr

end StorageTyping
