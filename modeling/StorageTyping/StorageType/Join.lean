import StorageTyping.Inference.Failure
import StorageTyping.ScalarType.Join

/-!
# Joins of storage types

The type of an arithmetic result from the types of its operands. A custom operand decides for
itself, whatever scalars it meets, but two different custom operands have no result. Scalars are
joined all at once, also by `join`, which joins two types.
-/

namespace StorageTyping

namespace StorageType

/-- The type of a result on operands of some types. -/
def joinAll (types : List StorageType) : Except Cause StorageType :=
  match types.filter (·.isCustom) with
  | first :: others =>
    match others.find? (· ≠ first) with
    | some other => .error (.mismatch first other)
    | none => .ok first
  | [] =>
    match ScalarType.joinAll (types.filterMap (·.scalar?)) with
    | some type => .ok (.scalar type)
    | none => .error .noOperands

/-- The type of a result on two operands. -/
def join : StorageType → StorageType → Except Cause StorageType
  | .scalar left, .scalar right =>
    match ScalarType.joinAll [left, right] with
    | some type => .ok (.scalar type)
    | none => .error .noOperands
  | .scalar _, right@(.custom ..) => .ok right
  | left@(.custom ..), .scalar _ => .ok left
  | left@(.custom ..), right@(.custom ..) =>
    if left = right then .ok left else .error (.mismatch left right)

/-- Without operands there is no result. -/
theorem joinAll_nil : joinAll [] = .error .noOperands := rfl

/-- Scalars are joined as scalars. -/
theorem joinAll_scalars (types : List ScalarType) :
    joinAll (types.map .scalar) =
      match ScalarType.joinAll types with
      | some type => .ok (.scalar type)
      | none => .error .noOperands := by
  have hcustom : (types.map StorageType.scalar).filter (·.isCustom) = [] := by
    simp [StorageType.isCustom]
  have hscalar : (types.map StorageType.scalar).filterMap (·.scalar?) = types := by
    rw [List.filterMap_map]
    exact List.filterMap_some
  simp only [joinAll, hcustom, hscalar]

/-- A custom type decides about two, unless the other one is a different custom type. -/
theorem join_of_isCustom {left : StorageType} (hleft : left.isCustom = true) (right : StorageType) :
    left.join right =
      if right.isCustom = true ∧ right ≠ left then .error (.mismatch left right) else .ok left := by
  cases left with
  | scalar => contradiction
  | custom =>
    cases right with
    | scalar => rfl
    | custom => simp only [join, isCustom, true_and, ne_eq, ite_not, eq_comm]

/-- Two types are joined as operands are of which there are no more. -/
theorem joinAll_pair (left right : StorageType) : joinAll [left, right] = left.join right := by
  cases hleft : left.isCustom with
  | true =>
    have hfilter : [left, right].filter (·.isCustom) = left :: [right].filter (·.isCustom) :=
      List.filter_cons_of_pos hleft
    rw [join_of_isCustom hleft]
    simp only [joinAll, hfilter]
    by_cases hright : right.isCustom = true <;> by_cases hsame : right = left <;> simp [hright, hsame]
  | false =>
    cases left with
    | custom => contradiction
    | scalar left =>
      cases right with
      | scalar right => exact joinAll_scalars [left, right]
      | custom => rfl

end StorageType

end StorageTyping
