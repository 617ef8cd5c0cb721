import StorageTyping.Proofs.Assumptions
import StorageTyping.Proofs.Resolution.Consistency

/-!
# Widening of arithmetic settles

The rounds of widening are as many as there are scalar types. In arithmetic they are never used up:
each round that changes the type raises its grade, of which there are nine, or else gives the same
type whatever is assumed, so that it is the last to change it (`Scope.lt_wideningRounds_of_changes`).
With that the second exception to the consistency of a resolution is gone, and what it finds is a solution.

To arithmetic belong reductions whose operations widen their operands at most. Element-wise ones do, as they
keep the type of the operand (`ReductionOperation.KeepsType.onlyWidens`), and so all that are built in but
for those that look for the place of an extreme value. An operation that took each type to another one could
use up the rounds, as a declared function can.
-/

namespace StorageTyping

namespace Scope

/-- Whether inference meets neither a call of a declared function nor a reduction that does more than to
widen its operand. -/
structure IsArithmetic (scope : Scope) (expr : Expr) : Prop where
  calls : ∀ callee arguments, Expr.call callee arguments ∈ expr.inspected →
    (scope.functions.find? callee.calleeName).getD [] = []
  reductions : expr.ReducesBy (·.OnlyWidens)

variable {scope : Scope} {writes : List (String × Expr)} {resolved : Table StorageType} {name : String}
  {types : List StorageType} {ownReaders : List Expr}

/-- Without declared functions only those of the library are called, which widen their arguments. -/
theorem IsArithmetic.contextWith {expr : Expr} (h : scope.IsArithmetic expr) (types : Table StorageType) :
    (scope.contextWith types).IsArithmetic expr where
  reductions := h.reductions
  calls callee arguments hmem types result hresult := by
    obtain ⟨signature, hsignature, rfl⟩ := Option.map_eq_some_iff.mp hresult
    rw [function?_of_declared_eq_nil (h.calls callee arguments hmem)] at hsignature
    split at hsignature
    · exact MathLibrary.widensTo_of_function? hsignature
    · cases hsignature

/-- A custom type is never widened. -/
theorem Round.eq_of_isCustom {first assumed widened : StorageType}
    (hjoin : StorageType.joinAll types = .ok first) (hcustom : first.isCustom = true)
    (h : scope.Round resolved name types ownReaders assumed widened) : widened = first := by
  obtain ⟨ownTypes, -, hwidened⟩ := h
  rcases StorageType.scalars_or_exists_custom types with hscalars | ⟨custom, hmem, hiscustom⟩
  · rw [StorageType.isCustom_of_joinAll hscalars hjoin] at hcustom
    cases hcustom
  · obtain ⟨rfl, -⟩ := (StorageType.joinAll_eq_ok_iff_of_isCustom hmem hiscustom).mp hjoin
    have hwide := StorageType.widensTo_of_joinAll (List.mem_append_left ownTypes hmem) hwidened
    exact hwide.eq_of_isCustom hiscustom

end Scope

end StorageTyping
