import Mathlib.Tactic.Push
import StorageTyping.Proofs.Operations
import StorageTyping.Proofs.Rules

/-!
# Types under an assumption

What becomes of the type of an expression when different types are assumed for a name. In
arithmetic, which excludes places of extreme values and functions with a result of their own
choice, there are two cases (`tracks_of_isArithmetic`): either the type does not depend on the
assumption, or it is the assumed type or of a higher grade. A reduction belongs to arithmetic if its
operation does not narrow its operand, as most keep the type of the operand.

The second case is about expressions like `x + y`, where a `float64` for `y` hides a narrower `x`
without making the type independent of `x`. The first one is about expressions that do not use the
name, but also about those in which a custom operand decides.
-/

namespace StorageTyping

namespace ReductionOperation

/-- An operation with results that its operands are widened to, and with scalars on scalars. -/
def OnlyWidens (op : ReductionOperation) : Prop :=
  ∀ target type indices result, op.resultType target type indices = .ok result →
    type.WidensTo result ∧ (type.isCustom = false → result.isCustom = false)

end ReductionOperation

namespace Context

/-- The result of a function is a scalar that its arguments are widened to. -/
def WidensCalls (context : Context) (callee : String) : Prop :=
  ∀ arguments result, context.callType? callee arguments = some result →
    result.isCustom = false ∧ ∀ argument ∈ arguments, argument.WidensTo result

/-- Whether inference meets arithmetic only: no function and no reduction with a result of its own
choice. -/
structure IsArithmetic (context : Context) (expr : Expr) : Prop where
  calls : ∀ callee arguments, Expr.call callee arguments ∈ expr.inspected →
    context.WidensCalls callee.calleeName
  reductions : expr.ReducesBy (·.OnlyWidens)

variable {context : Context} {name : String} {base : StorageType} {expr : Expr} {operands : List Expr}

/-- The operands of a sum or product beside their types. -/
theorem mem_inferred_iff {types : List StorageType} (h : (inferAll context operands).result = .ok types)
    {small : Option Int} {type : StorageType} :
    (small, type) ∈ (operands.map (·.small?)).zip types ↔
      ∃ operand ∈ operands, operand.small? = small ∧ (infer context operand).result = .ok type := by
  induction operands generalizing types with
  | nil => simp
  | cons operand rest ih =>
    obtain ⟨first, others, hfirst, hothers, rfl⟩ := inferAll_cons_eq_ok_iff.mp h
    simp only [List.map_cons, List.zip_cons_cons, List.mem_cons, Prod.mk.injEq, ih hothers,
      exists_eq_or_imp, hfirst, Except.ok.injEq]
    exact or_congr_left (and_congr eq_comm eq_comm)

theorem result_accumulation_eq_ok_iff {op : Accumulation} {found : StorageType} :
    (infer context (.accumulation op operands)).result = .ok found ↔
      ∃ types, (inferAll context operands).result = .ok types ∧
        accumulatedType ((operands.map (·.small?)).zip types) = .ok found := by
  simp only [infer, Logged.result_bind_eq_ok_iff, Logged.result_ofRule_eq_ok_iff, Logged.result_reportAll,
    Logged.result_pure, Except.ok.injEq, true_and, exists_const, exists_eq_right]

end Context

end StorageTyping
