import StorageTyping.Proofs.Operations

/-!
# How inference fails

Inference defers on a name that the expression reads and whose type is not determined, or it fails
for good at a node, with a cause of the node's own; or else the operation of a reduction has no answer
(`failure_of_infer`). Unless an operation does so, inference never fails for unresolved temporaries, a
cause that is left to the resolution of many expressions.
-/

namespace StorageTyping

/-- Whether a cause is that temporaries are unresolved. -/
def Cause.isUnresolved : Cause → Bool
  | .unresolved _ => true
  | _ => false

/-- The cause of a literal without a type is not that temporaries are unresolved. -/
theorem isUnresolved_of_storageType {literal : Literal} {cause : Cause}
    (h : literal.storageType = .error cause) : cause.isUnresolved = false := by
  unfold Literal.storageType integerType at h
  repeat' split at h
  all_goals first | contradiction | (cases h; rfl)

theorem isUnresolved_of_joinAll {types : List StorageType} {cause : Cause}
    (h : StorageType.joinAll types = .error cause) : cause.isUnresolved = false := by
  unfold StorageType.joinAll at h
  repeat' split at h
  all_goals first | contradiction | (cases h; rfl)

theorem isUnresolved_of_fieldType {type : StorageType} {name : String} {cause : Cause}
    (h : fieldType type name = .error cause) : cause.isUnresolved = false := by
  unfold fieldType at h
  split at h <;> cases h <;> rfl

namespace Context

/-- Whether a name is among some names, and its type is not determined. -/
def IsMissing (context : Context) (names : List String) (name : String) : Prop :=
  name ∈ names ∧ ∃ role, context.standing name = .undetermined role

theorem IsMissing.of_subset {context : Context} {names more : List String} {name : String}
    (h : context.IsMissing names name) (hsubset : names ⊆ more) : context.IsMissing more name :=
  ⟨hsubset h.1, h.2⟩

/-- The operation of a reduction has no answer on an operand of some type, and the node fails for it. -/
def OperationFails (context : Context) (expr : Expr) (failure : Failure) : Prop :=
  ∃ op operand indices type own, expr = .reduction op operand indices ∧
    (infer context operand).result = .ok type ∧
      op.resultType context.target type indices = .error own ∧ failure = own.locatedAt expr.render

end Context

/-- A node fails by a deferral on the name that it uses, or with a cause of its own and its text, or for an
operation. -/
theorem failure_of_rule {context : Context} {expr : Expr} {types : List StorageType} {failure : Failure}
    (htypes : (inferAll context expr.evaluated).result = .ok types)
    (h : (expr.rule context types).result = .error failure) :
    (∃ name role, expr.usedName? = some name ∧ context.standing name = .undetermined role ∧
        failure = .waiting name role) ∨
      (∃ cause : Cause, cause.isUnresolved = false ∧ failure = .rejected cause (some expr.render)) ∨
        context.OperationFails expr failure := by
  unfold Expr.rule at h
  split at h
  case h_1 types value =>
    obtain ⟨cause, hcause, rfl⟩ := Logged.result_ofRule_eq_error_iff.mp h
    exact Or.inr (Or.inl ⟨cause, isUnresolved_of_storageType hcause, rfl⟩)
  case h_2 types name tag =>
    rw [result_typeOfName] at h
    split at h <;> cases h
    · rename_i role hstanding
      exact Or.inl ⟨name, role, rfl, hstanding, rfl⟩
    · exact Or.inr (Or.inl ⟨.undeclared name, rfl, rfl⟩)
  case h_4 aggregate name type =>
    obtain ⟨cause, hcause, rfl⟩ := Logged.result_ofRule_eq_error_iff.mp h
    exact Or.inr (Or.inl ⟨cause, isUnresolved_of_fieldType hcause, rfl⟩)
  case h_5 op operands types =>
    simp only [Logged.result_bind_eq_error_iff, Logged.result_ofRule_eq_error_iff, Logged.result_reportAll,
      Logged.result_pure, reduceCtorEq, and_false, exists_false, or_false] at h
    obtain ⟨cause, hcause, rfl⟩ := h
    refine Or.inr (Or.inl ⟨cause, ?_, rfl⟩)
    unfold accumulatedType at hcause
    split at hcause <;> exact isUnresolved_of_joinAll hcause
  case h_6 op left right leftType rightType =>
    obtain ⟨cause, hcause, rfl⟩ := Logged.result_ofRule_eq_error_iff.mp h
    refine Or.inr (Or.inl ⟨cause, ?_, rfl⟩)
    unfold BinaryOp.resultType at hcause
    split at hcause
    · contradiction
    · exact isUnresolved_of_joinAll hcause
  case h_7 callee arguments types =>
    split at h
    · contradiction
    · cases h
      exact Or.inr (Or.inl ⟨_, rfl, rfl⟩)
  case h_11 condition consequent alternative conditionType left right =>
    obtain ⟨cause, hcause, rfl⟩ := Logged.result_ofRule_eq_error_iff.mp h
    exact Or.inr (Or.inl ⟨cause, isUnresolved_of_joinAll hcause, rfl⟩)
  case h_12 op operand indices type =>
    obtain ⟨own, hown, rfl⟩ := Logged.result_ofAnswer_eq_error_iff.mp h
    obtain ⟨_, _, hoperand, -, hsame⟩ := inferAll_cons_eq_ok_iff.mp htypes
    cases hsame
    exact Or.inr (Or.inr ⟨op, operand, indices, type, own, rfl, hoperand, hown, rfl⟩)
  case h_13 =>
    cases h
    exact Or.inr (Or.inl ⟨.noOperands, rfl, rfl⟩)
  all_goals contradiction

/-- Inference defers on a name that it reads and whose type is not determined, or it fails with the
cause and the text of a node, or for the operation of a reduction that it meets. -/
theorem failure_of_infer {context : Context} {expr : Expr} {failure : Failure}
    (h : (infer context expr).result = .error failure) :
    (∃ name ∈ expr.reads, ∃ role, context.standing name = .undetermined role ∧
        failure = .waiting name role) ∨
      (∃ (cause : Cause) (location : String),
        cause.isUnresolved = false ∧ failure = .rejected cause (some location)) ∨
        ∃ node ∈ expr.inspected, context.OperationFails node failure := by
  induction expr using Expr.evaluated_induction with
  | node expr ih =>
    rw [infer_eq, Logged.result_bind_eq_error_iff] at h
    rcases h with hoperands | ⟨types, htypes, hrule⟩
    · obtain ⟨operand, hoperand, hfailure⟩ := exists_mem_of_inferAll_eq_error hoperands
      rcases ih operand hoperand hfailure with ⟨name, hname, hwaiting⟩ | hrejected | ⟨node, hnode, hfails⟩
      · exact Or.inl ⟨name, Expr.mem_reads_iff.mpr (Or.inl ⟨operand, hoperand, hname⟩), hwaiting⟩
      · exact Or.inr (Or.inl hrejected)
      · exact Or.inr (Or.inr ⟨node, Expr.mem_inspected_iff.mpr (Or.inl ⟨operand, hoperand, hnode⟩), hfails⟩)
    · rcases failure_of_rule htypes hrule with ⟨name, role, hused, hwaiting⟩ | ⟨cause, hcause, rfl⟩ | hfails
      · exact Or.inl ⟨name, Expr.mem_reads_iff.mpr (Or.inr hused), role, hwaiting⟩
      · exact Or.inr (Or.inl ⟨cause, _, hcause, rfl⟩)
      · exact Or.inr (Or.inr ⟨expr, expr.mem_inspected_self, hfails⟩)

section Asked

variable {context : Context} {expr : Expr}

/-- If no operation waits, a deferral names something that the expression reads and whose type is not
determined. -/
theorem reads_and_standing_of_waiting (hops : expr.ReducesBy (·.NeverWaits)) {name : String} {role : Role}
    (h : (infer context expr).result = .error (.waiting name role)) :
    name ∈ expr.reads ∧ context.standing name = .undetermined role := by
  rcases failure_of_infer h with ⟨_, hname, _, hstanding, heq⟩ | ⟨_, _, -, heq⟩ | ⟨_, hnode, hfails⟩
  · cases heq
    exact ⟨hname, hstanding⟩
  · cases heq
  · obtain ⟨op, operand, indices, type, own, rfl, -, hown, heq⟩ := hfails
    obtain rfl := Failure.eq_waiting_of_locatedAt heq.symm
    exact absurd hown (hops.of_reduction_mem hnode _ _ _ _ _)

/-- If no operation waits, a deferral names something that is missing. -/
theorem isMissing_of_waiting (hops : expr.ReducesBy (·.NeverWaits)) {name : String} {role : Role}
    (h : (infer context expr).result = .error (.waiting name role)) : context.IsMissing expr.reads name :=
  have hreads := reads_and_standing_of_waiting hops h
  ⟨hreads.1, role, hreads.2⟩

/-- If no operation waits, a deferral names something that the expression reads. -/
theorem mem_reads_of_waiting (hops : expr.ReducesBy (·.NeverWaits)) {name : String} {role : Role}
    (h : (infer context expr).result = .error (.waiting name role)) : name ∈ expr.reads :=
  (reads_and_standing_of_waiting hops h).1

/-- If no operation waits, a deferral names something whose type is not determined. -/
theorem standing_of_waiting (hops : expr.ReducesBy (·.NeverWaits)) {name : String} {role : Role}
    (h : (infer context expr).result = .error (.waiting name role)) :
    context.standing name = .undetermined role :=
  (reads_and_standing_of_waiting hops h).2

/-- If no operation fails for unresolved temporaries, inference does not either. -/
theorem isUnresolved_of_infer (hops : expr.ReducesBy (·.NeverUnresolved)) {cause : Cause}
    {location : Option String} (h : (infer context expr).result = .error (.rejected cause location)) :
    cause.isUnresolved = false := by
  rcases failure_of_infer h with ⟨_, -, _, -, heq⟩ | ⟨_, _, hcause, heq⟩ | ⟨_, hnode, hfails⟩
  · cases heq
  · cases heq
    exact hcause
  · obtain ⟨op, operand, indices, type, own, rfl, -, hown, heq⟩ := hfails
    obtain ⟨place, rfl⟩ := Failure.exists_eq_of_locatedAt heq.symm
    cases cause with
    | unresolved names => exact absurd hown (hops.of_reduction_mem hnode _ _ _ _ _)
    | _ => rfl

end Asked

end StorageTyping
