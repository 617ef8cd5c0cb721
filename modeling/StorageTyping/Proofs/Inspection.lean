import StorageTyping.Inference.Basic

/-!
# What inference looks at

Inference evaluates a part of an expression only: it leaves out the index of an element access, a
callee, and the operands of comparisons and logical operators. `Expr.evaluated` gives the operands
of a node that it does evaluate and `Expr.rule` what it does at the node itself once they have
types; `infer_eq` says that inference is nothing but these two. `Expr.inspected` lists everything
that is evaluated below a node, and `Expr.reads` the names used there.
-/

namespace StorageTyping

namespace Expr

/-- The operands of a node that inference evaluates, in order. -/
def evaluated : Expr → List Expr
  | .element _ aggregate _ => [aggregate]
  | .field aggregate _ => [aggregate]
  | .accumulation _ operands => operands
  | .binary _ left right => [left, right]
  | .call _ arguments => arguments
  | .conditional condition consequent alternative => [condition, consequent, alternative]
  | .reduction _ operand _ => [operand]
  | _ => []

/-- What inference does at a node, from the types of the evaluated operands. No other number of
types than that of the operands ever arises. -/
def rule (context : Context) : Expr → List StorageType → Logged StorageType
  | .literal value, _ => .ofRule (some value.render) value.storageType
  | .reference name tag, _ => context.typeOfName (Expr.reference name tag).render name
  | .element .., [type] => return type
  | .field aggregate name, [type] =>
    .ofRule (some (Expr.field aggregate name).render) (fieldType type name)
  | .accumulation op operands, types => do
    let inferred := (operands.map (·.small?)).zip types
    let type ← .ofRule (some (Expr.accumulation op operands).render) (accumulatedType inferred)
    .reportAll (droppedLiterals inferred type)
    return type
  | .binary op left right, [leftType, rightType] =>
    .ofRule (some (Expr.binary op left right).render) (op.resultType leftType rightType)
  | .call callee arguments, types =>
    match context.callType? callee.calleeName types with
    | some type => return type
    | none =>
      .fail (.rejected (.unknownSignature callee.calleeName types)
        (some (Expr.call callee arguments).render))
  | .comparison .., _ => return .scalar .int32
  | .negation _, _ => return .scalar .int32
  | .junction .., _ => return .scalar .int32
  | .conditional condition consequent alternative, [_, left, right] =>
    .ofRule (some (Expr.conditional condition consequent alternative).render)
      (StorageType.joinAll [left, right])
  | .reduction op operand indices, [type] =>
    .ofAnswer (Expr.reduction op operand indices).render (op.resultType context.target type indices)
  | expr, _ => .fail (.rejected .noOperands (some expr.render))

mutual

/-- The sub-expressions that inference evaluates, operands before their node. -/
def inspected : Expr → List Expr
  | .literal value => [.literal value]
  | .reference name tag => [.reference name tag]
  | .element addressing aggregate index =>
    inspected aggregate ++ [.element addressing aggregate index]
  | .field aggregate name => inspected aggregate ++ [.field aggregate name]
  | .accumulation op operands => inspectedAll operands ++ [.accumulation op operands]
  | .binary op left right => inspected left ++ inspected right ++ [.binary op left right]
  | .call callee arguments => inspectedAll arguments ++ [.call callee arguments]
  | .comparison left relation right => [.comparison left relation right]
  | .negation operand => [.negation operand]
  | .junction op operands => [.junction op operands]
  | .conditional condition consequent alternative =>
    inspected condition ++ inspected consequent ++ inspected alternative ++
      [.conditional condition consequent alternative]
  | .reduction op operand indices => inspected operand ++ [.reduction op operand indices]

/-- The sub-expressions that inference evaluates in a list of operands. -/
def inspectedAll : List Expr → List Expr
  | [] => []
  | expr :: rest => inspected expr ++ inspectedAll rest

end

/-- The name that an expression uses, if it is a use of a name. -/
def usedName? : Expr → Option String
  | .reference name _ => some name
  | _ => none

/-- The names used where inference looks. -/
def reads (expr : Expr) : List String := expr.inspected.filterMap usedName?

theorem inspectedAll_eq_flatMap (operands : List Expr) :
    inspectedAll operands = operands.flatMap inspected := by
  induction operands with
  | nil => rfl
  | cons operand rest ih => rw [inspectedAll, ih, List.flatMap_cons]

/-- What is inspected is inspected in the operands that are evaluated, and the node comes last. -/
theorem inspected_eq (expr : Expr) :
    expr.inspected = expr.evaluated.flatMap inspected ++ [expr] := by
  cases expr <;> simp [inspected, evaluated, inspectedAll_eq_flatMap]

theorem mem_inspected_iff {sub expr : Expr} :
    sub ∈ expr.inspected ↔ (∃ operand ∈ expr.evaluated, sub ∈ operand.inspected) ∨ sub = expr := by
  rw [inspected_eq]
  simp

theorem mem_inspected_self (expr : Expr) : expr ∈ expr.inspected :=
  mem_inspected_iff.mpr (Or.inr rfl)

/-- A node reads what its evaluated operands read, and a use of a name that name. -/
theorem mem_reads_iff {name : String} {expr : Expr} :
    name ∈ expr.reads ↔
      (∃ operand ∈ expr.evaluated, name ∈ operand.reads) ∨ expr.usedName? = some name := by
  rw [reads, inspected_eq]
  simp [reads, List.filterMap_flatMap]

/-- An evaluated operand is a smaller expression. -/
theorem sizeOf_lt_of_mem_evaluated {operand expr : Expr} (h : operand ∈ expr.evaluated) :
    sizeOf operand < sizeOf expr := by
  cases expr with
  | accumulation op operands =>
    have hsize : sizeOf operand < sizeOf operands := List.sizeOf_lt_of_mem h
    simp only [accumulation.sizeOf_spec]
    omega
  | call callee arguments =>
    have hsize : sizeOf operand < sizeOf arguments := List.sizeOf_lt_of_mem h
    simp only [call.sizeOf_spec]
    omega
  | _ =>
    simp only [evaluated, List.mem_cons, List.not_mem_nil, or_false] at h
    try rcases h with rfl | rfl | rfl
    all_goals simp_wf
    all_goals omega

/-- What holds of a node if it holds of the operands that inference evaluates holds throughout. -/
@[elab_as_elim]
theorem evaluated_induction {motive : Expr → Prop}
    (node : ∀ expr : Expr, (∀ operand ∈ expr.evaluated, motive operand) → motive expr)
    (expr : Expr) : motive expr :=
  node expr fun operand _ => evaluated_induction node operand
termination_by expr
decreasing_by exact sizeOf_lt_of_mem_evaluated ‹_›

/-- What is inspected below an inspected node is inspected. -/
theorem mem_inspected_of_mem_inspected {sub node expr : Expr} (hnode : node ∈ expr.inspected)
    (h : sub ∈ node.inspected) : sub ∈ expr.inspected := by
  induction expr using evaluated_induction with
  | node expr ih =>
    rcases mem_inspected_iff.mp hnode with ⟨operand, hoperand, hbelow⟩ | rfl
    · exact mem_inspected_iff.mpr (Or.inl ⟨operand, hoperand, ih operand hoperand hbelow⟩)
    · exact h

/-- A name that is read below an inspected node is read. -/
theorem mem_reads_of_mem_inspected {name : String} {node expr : Expr} (hnode : node ∈ expr.inspected)
    (h : name ∈ node.reads) : name ∈ expr.reads := by
  obtain ⟨use, huse, hname⟩ := List.mem_filterMap.mp h
  exact List.mem_filterMap.mpr ⟨use, mem_inspected_of_mem_inspected hnode huse, hname⟩

end Expr

/-- Inference infers the operands that it evaluates and then applies the rule of the node. -/
theorem infer_eq (context : Context) (expr : Expr) :
    infer context expr = inferAll context expr.evaluated >>= expr.rule context := by
  cases expr <;> simp [infer, inferAll, Expr.evaluated, Expr.rule] <;> rfl

/-- The rule of a node asks what a name that is used there stands for, for the types of calls and for the
target. -/
theorem rule_congr {left right : Context} (hcalls : left.callType? = right.callType?)
    (htarget : left.target = right.target) {expr : Expr}
    (h : ∀ name, expr.usedName? = some name → left.standing name = right.standing name)
    (types : List StorageType) : expr.rule left types = expr.rule right types := by
  unfold Expr.rule
  split
  case h_2 name tag => rw [Context.typeOfName, Context.typeOfName, h name rfl]
  case h_7 => rw [hcalls]
  case h_12 => rw [htarget]
  all_goals rfl

theorem inferAll_congr {left right : Context} {operands : List Expr}
    (h : ∀ operand ∈ operands, infer left operand = infer right operand) :
    inferAll left operands = inferAll right operands := by
  induction operands with
  | nil => rfl
  | cons operand rest ih =>
    rw [inferAll, inferAll, h operand List.mem_cons_self,
      ih fun other hother => h other (List.mem_cons_of_mem _ hother)]

/-- Inference asks what the names that are read stand for, for the types of calls and for the target. Its
answer, with its log, depends on nothing else. -/
theorem infer_congr {left right : Context} (hcalls : left.callType? = right.callType?)
    (htarget : left.target = right.target) (expr : Expr)
    (h : ∀ name ∈ expr.reads, left.standing name = right.standing name) :
    infer left expr = infer right expr := by
  induction expr using Expr.evaluated_induction with
  | node expr ih =>
    have hoperands : inferAll left expr.evaluated = inferAll right expr.evaluated :=
      inferAll_congr fun operand hoperand => ih operand hoperand fun name hname =>
        h name (Expr.mem_reads_iff.mpr (Or.inl ⟨operand, hoperand, hname⟩))
    have hrule : expr.rule left = expr.rule right := funext fun types =>
      rule_congr hcalls htarget (fun name hname => h name (Expr.mem_reads_iff.mpr (Or.inr hname))) types
    rw [infer_eq, infer_eq, hoperands, hrule]

theorem inferAll_cons_eq_ok_iff {context : Context} {operand : Expr} {rest : List Expr}
    {types : List StorageType} :
    (inferAll context (operand :: rest)).result = .ok types ↔
      ∃ type others, (infer context operand).result = .ok type ∧
        (inferAll context rest).result = .ok others ∧ types = type :: others := by
  simp only [inferAll, Logged.result_bind_eq_ok_iff, Logged.result_pure, Except.ok.injEq]
  constructor
  · intro h
    obtain ⟨type, htype, others, hothers, rfl⟩ := h
    exact ⟨type, others, htype, hothers, rfl⟩
  · intro h
    obtain ⟨type, others, htype, hothers, rfl⟩ := h
    exact ⟨type, htype, others, hothers, rfl⟩

/-- The type of an expression, if it is determined. -/
def Context.type? (context : Context) (expr : Expr) : Option StorageType :=
  (infer context expr).result.toOption

theorem Context.type?_eq_some_iff {context : Context} {expr : Expr} {type : StorageType} :
    context.type? expr = some type ↔ (infer context expr).result = .ok type := by
  unfold type?
  cases (infer context expr).result <;> simp [Except.toOption]

/-- Without a type there is a failure. -/
theorem Context.type?_eq_none_iff {context : Context} {expr : Expr} :
    context.type? expr = none ↔ ∃ failure, (infer context expr).result = .error failure := by
  unfold type?
  cases (infer context expr).result <;> simp [Except.toOption]

/-- Operands have types exactly if each of them has one, and these are the types. -/
theorem inferAll_eq_ok_iff {context : Context} {operands : List Expr} {types : List StorageType} :
    (inferAll context operands).result = .ok types ↔
      (∀ operand ∈ operands, (context.type? operand).isSome) ∧
        types = operands.filterMap context.type? := by
  induction operands generalizing types with
  | nil => cases types <;> simp [inferAll]
  | cons operand rest ih =>
    rw [inferAll_cons_eq_ok_iff, List.filterMap_cons, List.forall_mem_cons]
    simp only [← Context.type?_eq_some_iff, ih]
    cases context.type? operand with
    | none => simp
    | some type =>
      constructor
      · intro h
        obtain ⟨_, _, hsome, ⟨hrest, rfl⟩, rfl⟩ := h
        cases hsome
        exact ⟨⟨rfl, hrest⟩, rfl⟩
      · intro h
        obtain ⟨⟨-, hrest⟩, rfl⟩ := h
        exact ⟨_, _, rfl, ⟨hrest, rfl⟩, rfl⟩

/-- The operands of a node with a type have types. -/
theorem exists_inferAll_of_infer {context : Context} {expr : Expr} {type : StorageType}
    (h : (infer context expr).result = .ok type) :
    ∃ types, (inferAll context expr.evaluated).result = .ok types := by
  rw [infer_eq, Logged.result_bind_eq_ok_iff] at h
  obtain ⟨types, htypes, -⟩ := h
  exact ⟨types, htypes⟩

/-- If all operands have types, each has one of them. -/
theorem exists_infer_of_mem {context : Context} {operands : List Expr} {types : List StorageType}
    (h : (inferAll context operands).result = .ok types) {operand : Expr} (hoperand : operand ∈ operands) :
    ∃ type ∈ types, (infer context operand).result = .ok type := by
  obtain ⟨htyped, rfl⟩ := inferAll_eq_ok_iff.mp h
  obtain ⟨type, htype⟩ := Option.isSome_iff_exists.mp (htyped operand hoperand)
  exact ⟨type, List.mem_filterMap.mpr ⟨operand, hoperand, htype⟩, Context.type?_eq_some_iff.mp htype⟩

/-- Everything that is inspected in an expression with a type has one. -/
theorem isSome_type?_of_mem_inspected {context : Context} {expr sub : Expr} {type : StorageType}
    (h : (infer context expr).result = .ok type) (hsub : sub ∈ expr.inspected) : (context.type? sub).isSome := by
  induction expr using Expr.evaluated_induction generalizing type with
  | node expr ih =>
    rcases Expr.mem_inspected_iff.mp hsub with ⟨operand, hoperand, hbelow⟩ | rfl
    · obtain ⟨types, htypes⟩ := exists_inferAll_of_infer h
      obtain ⟨operandType, -, hoperandType⟩ := exists_infer_of_mem htypes hoperand
      exact ih operand hoperand hoperandType hbelow
    · rw [Context.type?_eq_some_iff.mpr h, Option.isSome_some]

/-- Operands fail with the failure of the first one that has no type. -/
theorem inferAll_eq_error_iff {context : Context} {operands : List Expr} {failure : Failure} :
    (inferAll context operands).result = .error failure ↔
      ∃ before operand after, operands = before ++ operand :: after ∧
        (∀ earlier ∈ before, (context.type? earlier).isSome) ∧
          (infer context operand).result = .error failure := by
  induction operands with
  | nil => simp [inferAll]
  | cons operand rest ih =>
    simp only [inferAll, Logged.result_bind_eq_error_iff, Logged.result_pure, reduceCtorEq, and_false,
      exists_false, or_false, ih]
    constructor
    · intro h
      rcases h with hfirst | ⟨type, htype, before, other, after, rfl, hbefore, hfailure⟩
      · exact ⟨[], operand, rest, rfl, by simp, hfirst⟩
      · have hoperand : (context.type? operand).isSome := by
          rw [Context.type?_eq_some_iff.mpr htype, Option.isSome_some]
        exact ⟨operand :: before, other, after, rfl, List.forall_mem_cons.mpr ⟨hoperand, hbefore⟩, hfailure⟩
    · intro h
      obtain ⟨before, other, after, hsplit, hbefore, hfailure⟩ := h
      cases before with
      | nil =>
        cases hsplit
        exact Or.inl hfailure
      | cons first before =>
        cases hsplit
        obtain ⟨hfirst, hbefore⟩ := List.forall_mem_cons.mp hbefore
        obtain ⟨type, htype⟩ := Option.isSome_iff_exists.mp hfirst
        exact Or.inr ⟨type, Context.type?_eq_some_iff.mp htype, before, other, after, rfl, hbefore, hfailure⟩

/-- Operands fail with the failure of one of them. -/
theorem exists_mem_of_inferAll_eq_error {context : Context} {operands : List Expr} {failure : Failure}
    (h : (inferAll context operands).result = .error failure) :
    ∃ operand ∈ operands, (infer context operand).result = .error failure := by
  obtain ⟨before, operand, after, rfl, -, hfailure⟩ := inferAll_eq_error_iff.mp h
  exact ⟨operand, by simp, hfailure⟩

theorem result_typeOfName (context : Context) (location name : String) :
    (context.typeOfName location name).result =
      match context.standing name with
      | .known type => .ok type
      | .undetermined role => .error (.waiting name role)
      | .unknown => .error (.rejected (.undeclared name) (some location)) := by
  unfold Context.typeOfName
  cases context.standing name <;> rfl

/-- A use of a name has the type that the name stands for. -/
theorem infer_reference_eq_ok_iff {context : Context} {name : String} {tag : Option String}
    {type : StorageType} :
    (infer context (.reference name tag)).result = .ok type ↔ context.standing name = .known type := by
  rw [infer, result_typeOfName]
  cases context.standing name <;> simp

/-- An expression with a type reads names with types only. -/
theorem known_of_mem_reads {context : Context} {expr : Expr} {type : StorageType} {name : String}
    (h : (infer context expr).result = .ok type) (hname : name ∈ expr.reads) :
    ∃ known, context.standing name = .known known := by
  induction expr using Expr.evaluated_induction generalizing type with
  | node expr ih =>
    rcases Expr.mem_reads_iff.mp hname with ⟨operand, hoperand, hread⟩ | hused
    · obtain ⟨types, htypes⟩ := exists_inferAll_of_infer h
      obtain ⟨operandType, -, hoperandType⟩ := exists_infer_of_mem htypes hoperand
      exact ih operand hoperand hoperandType hread
    · cases expr with
      | reference used tag =>
        cases hused
        exact ⟨type, infer_reference_eq_ok_iff.mp h⟩
      | _ => cases hused

end StorageTyping
