import StorageTyping.Proofs.Stability

/-!
# The first failure

The inspected sub-expressions of an expression stand in the order in which inference goes through them,
operands before their node. Inference stops at the first of them without a type, and its failure is the
failure of that one (`infer_firstUntyped`). All operands of the first one have types, so it fails at its own
node: a failure for good is placed there, however deep it stands in the whole, unless the operation of a
reduction has placed it elsewhere.
-/

namespace StorageTyping

/-- A failure for good is placed at an expression; a deferral has no place. -/
def Failure.PlacedAt (failure : Failure) (expr : Expr) : Prop :=
  ∀ cause location, failure = .rejected cause location → location = some expr.render

/-- The first inspected sub-expression without a type, operands before their node. -/
def Context.firstUntyped? (context : Context) (expr : Expr) : Option Expr :=
  expr.inspected.find? fun sub => (context.type? sub).isNone

variable {context : Context} {expr : Expr}

/-- The first sub-expression without a type is found below the operands, or else it is the node. -/
theorem firstUntyped?_eq (context : Context) (expr : Expr) :
    context.firstUntyped? expr =
      (expr.evaluated.findSome? context.firstUntyped?).or
        (if (context.type? expr).isNone then some expr else none) := by
  rw [Context.firstUntyped?, Expr.inspected_eq, List.find?_append, List.find?_flatMap, List.find?_singleton]
  rfl

theorem isSome_type?_iff : (context.type? expr).isSome ↔ ∃ type, (infer context expr).result = .ok type := by
  simp only [Option.isSome_iff_exists, Context.type?_eq_some_iff]

/-- There is no first one exactly if every inspected sub-expression has a type. -/
theorem firstUntyped?_eq_none_iff :
    context.firstUntyped? expr = none ↔ ∀ sub ∈ expr.inspected, (context.type? sub).isSome := by
  simp [Context.firstUntyped?, Option.isSome_iff_ne_none]

/-- The node itself is inspected. -/
theorem isSome_type?_of_firstUntyped?_eq_none (h : context.firstUntyped? expr = none) :
    (context.type? expr).isSome :=
  firstUntyped?_eq_none_iff.mp h expr expr.mem_inspected_self

/-- A node whose operands have types fails by its rule. -/
theorem result_rule_of_operands (hoperands : ∀ operand ∈ expr.evaluated, (context.type? operand).isSome) :
    ∃ types, (inferAll context expr.evaluated).result = .ok types ∧
      (infer context expr).result = (expr.rule context types).result := by
  refine ⟨_, inferAll_eq_ok_iff.mpr ⟨hoperands, rfl⟩, ?_⟩
  rw [infer_eq, Logged.result_bind, inferAll_eq_ok_iff.mpr ⟨hoperands, rfl⟩]
  rfl

/-- If all operands have types, a failure for good is placed at the node, unless an operation has placed it. -/
theorem placedAt_of_operands (hops : expr.ReducesBy (·.NeverPlaced))
    (hoperands : ∀ operand ∈ expr.evaluated, (context.type? operand).isSome)
    {failure : Failure} (h : (infer context expr).result = .error failure) : failure.PlacedAt expr := by
  obtain ⟨types, htypes, hrule⟩ := result_rule_of_operands hoperands
  intro cause location hrejected
  rcases failure_of_rule htypes (hrule.symm.trans h) with
    ⟨name, role, -, -, hwaiting⟩ | ⟨_, -, hplaced⟩ | hfails
  · cases hwaiting.symm.trans hrejected
  · cases hplaced.symm.trans hrejected
    rfl
  · obtain ⟨op, operand, indices, type, own, rfl, -, hown, heq⟩ := hfails
    obtain ⟨place, rfl⟩ := Failure.exists_eq_of_locatedAt (heq.symm.trans hrejected)
    cases place with
    | none =>
      cases heq.symm.trans hrejected
      rfl
    | some place => exact absurd hown (hops.of_reduction _ _ _ _ _)

/-- Inference fails as it does on the first inspected sub-expression without a type, all operands of which have
types. -/
theorem infer_firstUntyped {sub : Expr} (h : context.firstUntyped? expr = some sub) :
    ∃ failure, (infer context sub).result = .error failure ∧
      (infer context expr).result = .error failure ∧
        ∀ operand ∈ sub.evaluated, (context.type? operand).isSome := by
  induction expr using Expr.evaluated_induction with
  | node expr ih =>
    rw [firstUntyped?_eq] at h
    rcases Option.or_eq_some_iff.mp h with hbelow | ⟨hnone, hself⟩
    · obtain ⟨before, operand, after, hsplit, hoperand, hbefore⟩ := List.findSome?_eq_some_iff.mp hbelow
      obtain ⟨failure, hsub, hfailure, htyped⟩ := ih operand (by simp [hsplit]) hoperand
      have hoperands : (inferAll context expr.evaluated).result = .error failure :=
        inferAll_eq_error_iff.mpr ⟨before, operand, after, hsplit,
          fun earlier hearlier => isSome_type?_of_firstUntyped?_eq_none (hbefore earlier hearlier), hfailure⟩
      exact ⟨failure, hsub, by rw [infer_eq, Logged.result_bind, hoperands]; rfl, htyped⟩
    · obtain ⟨huntyped, rfl⟩ : context.type? expr = none ∧ expr = sub := by simpa using hself
      obtain ⟨failure, hfailure⟩ := Context.type?_eq_none_iff.mp huntyped
      exact ⟨failure, hfailure, hfailure, fun operand hoperand =>
        isSome_type?_of_firstUntyped?_eq_none (List.findSome?_eq_none_iff.mp hnone operand hoperand)⟩

/-- An expression has a type exactly if every inspected sub-expression has one. Otherwise it fails as the first
of these without a type does, in the order of evaluation, and a failure for good is placed at that one, if no
operation places its failures itself. -/
theorem Scope.infer_fails_first (scope : Scope) (pending : Pending) (expr : Expr) :
    ((∃ type, (scope.infer pending expr).result = .ok type) ↔
        ∀ sub ∈ expr.inspected, ∃ type, (scope.infer pending sub).result = .ok type) ∧
      ∀ sub, (scope.context pending).firstUntyped? expr = some sub →
        ∃ failure, (scope.infer pending sub).result = .error failure ∧
          (scope.infer pending expr).result = .error failure ∧
            (sub.ReducesBy (·.NeverPlaced) → failure.PlacedAt sub) := by
  refine ⟨⟨fun htyped => ?_, fun htyped => ?_⟩, fun sub hsub => ?_⟩
  · have hnone : (scope.context pending).firstUntyped? expr = none := by
      refine Option.eq_none_iff_forall_ne_some.mpr fun sub hsub => ?_
      obtain ⟨type, htype⟩ := htyped
      obtain ⟨failure, -, hfailure, -⟩ := infer_firstUntyped hsub
      cases htype.symm.trans hfailure
    exact fun sub hsub => isSome_type?_iff.mp (firstUntyped?_eq_none_iff.mp hnone sub hsub)
  · exact htyped expr (Expr.mem_inspected_iff.mpr (Or.inr rfl))
  · obtain ⟨failure, hfailure, hwhole, hoperands⟩ := infer_firstUntyped hsub
    exact ⟨failure, hfailure, hwhole, fun hops => placedAt_of_operands hops hoperands hfailure⟩

/-- A field of the greatest of some numbers, which has none. -/
def maximumField : Expr := .field (.reduction Reduction.max.operation (.reference "a" none) ["i"]) "x"

/-- A choice by an undetermined temporary: it stands in a comparison and as an index, where it is not looked at,
and as the alternative, behind a field of a number. -/
def guardedField : Expr :=
  .conditional (.comparison (.reference "t" none) .greater (.literal (.integer 0)))
    (.accumulation .sum [.element .indexed (.reference "a" none) (.reference "t" none), maximumField])
    (.reference "t" none)

/-- The field of a number is the first one without a type, and the failure of the whole is placed there. -/
theorem infer_fails_first_guardedField :
    (openScope.context .empty).firstUntyped? guardedField = some maximumField ∧
      maximumField.ReducesBy (·.NeverPlaced) ∧
      ∃ failure : Failure, failure = .rejected (.notRecord (.scalar .float64) "x") (some "max(i, a).x") ∧
        (openScope.infer .empty guardedField).result = .error failure ∧ failure.PlacedAt maximumField := by
  have hfirst : (openScope.context .empty).firstUntyped? guardedField = some maximumField := rfl
  have hops : maximumField.ReducesBy (·.NeverPlaced) :=
    Expr.reducesBy_of_builtIn [.max] rfl Reduction.neverPlaced
  obtain ⟨failure, hfield, hwhole, hplaced⟩ := (openScope.infer_fails_first .empty guardedField).2 _ hfirst
  refine ⟨hfirst, hops, failure, ?_, hwhole, hplaced hops⟩
  exact Except.error.inj (hfield.symm.trans rfl)

end StorageTyping
