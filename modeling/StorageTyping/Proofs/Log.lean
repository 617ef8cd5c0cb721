import Mathlib.Data.List.TakeWhile
import StorageTyping.Proofs.FirstFailure
import StorageTyping.Proofs.SmallLiterals

/-!
# The log of an inference

The log of an inference can be read off from the inspected sub-expressions and the answer. First there are
the warnings of the sums and products that stand before the first sub-expression without a type, in the
order in which inference goes through them; then, if that one is a use of a name whose type is missing, the
report of this (`events_infer`). The operation of a reduction reports nothing, so if none defers, a log tells
whether an inference was deferred, and on what (`Scope.log_tells_outcome`).

That nothing follows the report of a missing type is because no node deals with a failure of an operand.
-/

namespace StorageTyping

/-- The report that an answer leaves at the end of a log: that of the missing type if it is a deferral. -/
def deferralEvents {α : Type} : Except Failure α → List Event
  | .error (.waiting name role) => [.dependencyUnresolved name role]
  | _ => []

theorem mem_deferralEvents_iff {α : Type} {answer : Except Failure α} {event : Event} :
    event ∈ deferralEvents answer ↔
      ∃ name role, answer = .error (.waiting name role) ∧ event = .dependencyUnresolved name role := by
  rcases answer with (_ | _) | _ <;> simp [deferralEvents]

/-- The warnings of a node, from the types of its operands. Only sums and products that have a type warn. -/
def Expr.warnings : Expr → List StorageType → List Event
  | .accumulation _ operands, types =>
    match accumulatedType ((operands.map (·.small?)).zip types) with
    | .ok type => droppedLiterals ((operands.map (·.small?)).zip types) type
    | .error _ => []
  | _, _ => []

/-- The report of a use of a name whose type is not determined. -/
def Context.missingReport (context : Context) (expr : Expr) : List Event :=
  match expr.usedName? with
  | none => []
  | some name =>
    match context.standing name with
    | .undetermined role => [.dependencyUnresolved name role]
    | _ => []

/-- The events that a node adds to those of its operands. -/
def Context.ownEvents (context : Context) (expr : Expr) : List Event :=
  (infer context expr).events.drop (inferAll context expr.evaluated).events.length

/-- The sub-expressions that inference goes through before the first one without a type. -/
def Context.typedPrefix (context : Context) (subs : List Expr) : List Expr :=
  subs.takeWhile fun sub => (context.type? sub).isSome

variable {context : Context} {expr : Expr} {operands : List Expr}

theorem Expr.warnings_eq_nil (h : ∀ op operands, expr ≠ .accumulation op operands) (types : List StorageType) :
    expr.warnings types = [] := by
  cases expr with
  | accumulation op operands => exact absurd rfl (h op operands)
  | _ => rfl

@[simp] theorem Logged.events_ofRule {α : Type} (location : Option String) (rule : Except Cause α) :
    (ofRule location rule).events = [] := by
  cases rule <;> rfl

/-- The rule of a node reports its warnings, and that the type of a name is missing if it is. -/
theorem events_rule (context : Context) (expr : Expr) (types : List StorageType) :
    (expr.rule context types).events = expr.warnings types ++ context.missingReport expr := by
  unfold Expr.rule
  split
  case h_2 _ name tag =>
    unfold Context.typeOfName
    dsimp only [Context.missingReport, Expr.usedName?]
    cases context.standing name <;> rfl
  case h_5 _ op operands =>
    dsimp only [Expr.warnings]
    cases accumulatedType ((operands.map (·.small?)).zip types) <;> rfl
  case h_7 _ callee arguments => cases context.callType? callee.calleeName types <;> rfl
  case h_12 => exact Logged.events_ofAnswer _ _
  case h_13 _ hreference hsum _ _ _ _ _ _ _ _ _ =>
    rw [Expr.warnings_eq_nil hsum]
    cases expr with
    | reference name tag => exact absurd rfl (hreference name tag)
    | _ => rfl
  case h_1 | h_4 | h_6 | h_11 => exact Logged.events_ofRule _ _
  all_goals rfl

/-- A node whose rule fails gives no warning. -/
theorem warnings_eq_nil_of_error {types : List StorageType} {failure : Failure}
    (h : (expr.rule context types).result = .error failure) : expr.warnings types = [] := by
  cases expr with
  | accumulation op operands =>
    dsimp only [Expr.rule] at h
    dsimp only [Expr.warnings]
    cases haccumulated : accumulatedType ((operands.map (·.small?)).zip types) with
    | ok type =>
      rw [haccumulated] at h
      cases h
    | error cause => rfl
  | _ => rfl

/-- The events of a node come after those of its operands. -/
theorem events_infer_eq (context : Context) (expr : Expr) :
    (infer context expr).events = (inferAll context expr.evaluated).events ++ context.ownEvents expr := by
  rw [Context.ownEvents, infer_eq, Logged.events_bind, List.drop_left]

/-- Once its operands have types, a node adds the events of its rule. -/
theorem ownEvents_eq {types : List StorageType} (h : (inferAll context expr.evaluated).result = .ok types) :
    context.ownEvents expr = expr.warnings types ++ context.missingReport expr := by
  rw [Context.ownEvents, ← events_rule, infer_eq, Logged.events_bind, h, List.drop_left]

/-- A use of a name with a type leaves no report. -/
theorem missingReport_eq_nil {type : StorageType} (h : (infer context expr).result = .ok type) :
    context.missingReport expr = [] := by
  cases expr with
  | reference name tag =>
    dsimp only [Context.missingReport, Expr.usedName?]
    rw [infer_reference_eq_ok_iff.mp h]
  | _ => rfl

/-- Once its operands have types, a node with a type adds its warnings. -/
theorem ownEvents_eq_warnings {types : List StorageType} {type : StorageType}
    (htypes : (inferAll context expr.evaluated).result = .ok types)
    (h : (infer context expr).result = .ok type) : context.ownEvents expr = expr.warnings types := by
  rw [ownEvents_eq htypes, missingReport_eq_nil h, List.append_nil]

/-- A node with an operand without a type adds nothing. -/
theorem ownEvents_eq_nil {failure : Failure} (h : (inferAll context expr.evaluated).result = .error failure) :
    context.ownEvents expr = [] := by
  rw [Context.ownEvents, infer_eq, Logged.events_bind, h, List.append_nil, List.drop_length]

theorem typedPrefix_append_of_typed {subs : List Expr} (h : ∀ sub ∈ subs, (context.type? sub).isSome)
    (rest : List Expr) : context.typedPrefix (subs ++ rest) = subs ++ context.typedPrefix rest :=
  List.takeWhile_append_of_pos h

theorem typedPrefix_append_of_untyped {subs : List Expr} {sub : Expr} (hmem : sub ∈ subs)
    (h : context.type? sub = none) (rest : List Expr) :
    context.typedPrefix (subs ++ rest) = context.typedPrefix subs := by
  unfold Context.typedPrefix
  rw [List.takeWhile_append, if_neg]
  intro hlength
  have hall := (List.takeWhile_prefix _).eq_of_length hlength
  simpa [h] using List.takeWhile_eq_self_iff.mp hall sub hmem

/-- The warnings of the sub-expressions before the first one without a type, one after the other. -/
def Context.warningsAmong (context : Context) (subs : List Expr) : List Event :=
  (context.typedPrefix subs).flatMap context.ownEvents

theorem warningsAmong_singleton (context : Context) (expr : Expr) :
    context.warningsAmong [expr] = if (context.type? expr).isSome then context.ownEvents expr else [] := by
  unfold Context.warningsAmong Context.typedPrefix
  cases h : context.type? expr <;> simp [h]

theorem warningsAmong_append_of_typed {subs : List Expr} (h : ∀ sub ∈ subs, (context.type? sub).isSome)
    (rest : List Expr) :
    context.warningsAmong (subs ++ rest) = context.warningsAmong subs ++ context.warningsAmong rest := by
  have hself : context.typedPrefix subs = subs := List.takeWhile_eq_self_iff.mpr h
  simp only [Context.warningsAmong, typedPrefix_append_of_typed h, hself, List.flatMap_append]

theorem warningsAmong_append_of_untyped {subs : List Expr} {sub : Expr} (hmem : sub ∈ subs)
    (h : context.type? sub = none) (rest : List Expr) :
    context.warningsAmong (subs ++ rest) = context.warningsAmong subs := by
  rw [Context.warningsAmong, typedPrefix_append_of_untyped hmem h, Context.warningsAmong]

/-- The report on the first sub-expression without a type, if there is one. -/
def Context.firstReport (context : Context) (first? : Option Expr) : List Event :=
  first?.elim [] context.missingReport

/-- A node whose operands have types adds its warnings if it has one too, and otherwise its report. -/
theorem ownEvents_eq_warningsAmong {types : List StorageType}
    (h : (inferAll context expr.evaluated).result = .ok types) :
    context.ownEvents expr = context.warningsAmong [expr] ++
      context.firstReport (if (context.type? expr).isNone then some expr else none) := by
  rw [warningsAmong_singleton]
  cases hresult : (infer context expr).result with
  | ok type =>
    rw [Context.type?_eq_some_iff.mpr hresult]
    exact (List.append_nil _).symm
  | error failure =>
    have hrule := hresult
    rw [infer_eq, Logged.result_bind, h] at hrule
    rw [ownEvents_eq h, warnings_eq_nil_of_error hrule, Context.type?_eq_none_iff.mpr ⟨failure, hresult⟩]
    rfl

/-- An expression without a type has a first sub-expression without one. -/
theorem isSome_firstUntyped?_of_error {failure : Failure} (h : (infer context expr).result = .error failure) :
    (context.firstUntyped? expr).isSome := by
  rw [Option.isSome_iff_ne_none]
  intro hnone
  have htyped := isSome_type?_of_firstUntyped?_eq_none hnone
  simp [Context.type?_eq_none_iff.mpr ⟨failure, h⟩] at htyped

/-- Of operands the first is inferred with its log, and the others if it has a type. -/
theorem events_inferAll_cons (context : Context) (operand : Expr) (rest : List Expr) :
    (inferAll context (operand :: rest)).events =
      (infer context operand).events ++
        match (infer context operand).result with
        | .ok _ => (inferAll context rest).events
        | .error _ => [] := by
  rw [inferAll, Logged.events_bind]
  cases (infer context operand).result with
  | ok type =>
    simp only [Logged.events_bind, Logged.events_pure]
    cases (inferAll context rest).result <;> simp
  | error failure => rfl

/-- If the log of each operand is made up of the warnings before the first failure and the report on it, so
is their log together. -/
theorem events_inferAll (h : ∀ operand ∈ operands, (infer context operand).events =
      context.warningsAmong operand.inspected ++ context.firstReport (context.firstUntyped? operand)) :
    (inferAll context operands).events =
      context.warningsAmong (operands.flatMap Expr.inspected) ++
        context.firstReport (operands.findSome? context.firstUntyped?) := by
  induction operands with
  | nil => rfl
  | cons operand rest ih =>
    obtain ⟨hoperand, hrest⟩ := List.forall_mem_cons.mp h
    rw [events_inferAll_cons, hoperand, List.flatMap_cons, List.findSome?_cons]
    cases hresult : (infer context operand).result with
    | ok type =>
      have htyped : ∀ sub ∈ operand.inspected, (context.type? sub).isSome :=
        fun sub => isSome_type?_of_mem_inspected hresult
      rw [warningsAmong_append_of_typed htyped, firstUntyped?_eq_none_iff.mpr htyped]
      simp only [ih hrest, Context.firstReport, Option.elim_none, List.append_nil, List.append_assoc]
    | error failure =>
      -- The operand comes last in what is inspected in it, so the prefix ends there at the latest.
      have huntyped : context.type? operand = none := Context.type?_eq_none_iff.mpr ⟨failure, hresult⟩
      obtain ⟨first, hfirst⟩ := Option.isSome_iff_exists.mp (isSome_firstUntyped?_of_error hresult)
      rw [warningsAmong_append_of_untyped operand.mem_inspected_self huntyped, hfirst, List.append_nil]

/-- The log of an inference: the warnings before the first sub-expression without a type, and then the report
on that one. -/
theorem events_infer (context : Context) (expr : Expr) :
    (infer context expr).events =
      context.warningsAmong expr.inspected ++ context.firstReport (context.firstUntyped? expr) := by
  induction expr using Expr.evaluated_induction with
  | node expr ih =>
    rw [events_infer_eq, events_inferAll ih, Expr.inspected_eq, firstUntyped?_eq]
    cases hoperands : (inferAll context expr.evaluated).result with
    | ok types =>
      have htyped (operand : Expr) (hoperand : operand ∈ expr.evaluated) :
          ∀ sub ∈ operand.inspected, (context.type? sub).isSome := by
        obtain ⟨type, -, htype⟩ := exists_infer_of_mem hoperands hoperand
        exact fun sub => isSome_type?_of_mem_inspected htype
      have hnone : expr.evaluated.findSome? context.firstUntyped? = none :=
        List.findSome?_eq_none_iff.mpr fun operand hoperand =>
          firstUntyped?_eq_none_iff.mpr (htyped operand hoperand)
      have hnil : context.firstReport none = [] := rfl
      rw [warningsAmong_append_of_typed (List.forall_mem_flatMap.mpr htyped), hnone, hnil, List.append_nil,
        Option.none_or, ownEvents_eq_warningsAmong hoperands, List.append_assoc]
    | error failure =>
      obtain ⟨operand, hoperand, hfailure⟩ := exists_mem_of_inferAll_eq_error hoperands
      have huntyped : context.type? operand = none := Context.type?_eq_none_iff.mpr ⟨failure, hfailure⟩
      have hmem : operand ∈ expr.evaluated.flatMap Expr.inspected :=
        List.mem_flatMap.mpr ⟨operand, hoperand, operand.mem_inspected_self⟩
      have hsome : (expr.evaluated.findSome? context.firstUntyped?).isSome :=
        List.findSome?_isSome_iff.mpr ⟨operand, hoperand, isSome_firstUntyped?_of_error hfailure⟩
      rw [warningsAmong_append_of_untyped hmem huntyped, ownEvents_eq_nil hoperands, List.append_nil,
        Option.or_of_isSome hsome]

/-- If no operation waits, a node whose operands have types leaves the report that its answer calls for. -/
theorem missingReport_eq_deferralEvents (hops : expr.ReducesBy (·.NeverWaits))
    (hoperands : ∀ operand ∈ expr.evaluated, (context.type? operand).isSome) :
    context.missingReport expr = deferralEvents (infer context expr).result := by
  cases hused : expr.usedName? with
  | some name =>
    cases expr with
    | reference name tag =>
      rw [infer, result_typeOfName]
      dsimp only [Context.missingReport, Expr.usedName?]
      cases context.standing name <;> rfl
    | _ => cases hused
  | none =>
    obtain ⟨types, htypes, hrule⟩ := result_rule_of_operands hoperands
    simp only [Context.missingReport, hused]
    cases hresult : (infer context expr).result with
    | ok type => rfl
    | error failure =>
      cases failure with
      | rejected cause location => rfl
      | waiting name role =>
        rcases failure_of_rule htypes (hrule.symm.trans hresult) with ⟨_, _, hname, -⟩ | ⟨_, -, heq⟩ | hfails
        · cases hused.symm.trans hname
        · cases heq
        · obtain ⟨op, operand, indices, type, own, rfl, -, hown, heq⟩ := hfails
          obtain rfl := Failure.eq_waiting_of_locatedAt heq.symm
          exact absurd hown (hops.of_reduction _ _ _ _ _)

/-- If no operation waits, the report on the first sub-expression without a type is the one that a deferral
calls for. -/
theorem firstReport_eq_deferralEvents (hops : expr.ReducesBy (·.NeverWaits)) :
    context.firstReport (context.firstUntyped? expr) = deferralEvents (infer context expr).result := by
  cases hfirst : context.firstUntyped? expr with
  | none =>
    obtain ⟨type, htype⟩ := isSome_type?_iff.mp (isSome_type?_of_firstUntyped?_eq_none hfirst)
    rw [htype]
    rfl
  | some sub =>
    obtain ⟨failure, hsub, hexpr, hoperands⟩ := infer_firstUntyped hfirst
    rw [hexpr, ← hsub]
    exact missingReport_eq_deferralEvents (hops.of_mem_inspected (List.mem_of_find?_eq_some hfirst)) hoperands

/-- A sum or product with a type warns about those of its small literals that are left out and do not fit. -/
theorem ownEvents_accumulation {op : Accumulation} {type : StorageType}
    (h : (infer context (.accumulation op operands)).result = .ok type) :
    context.ownEvents (.accumulation op operands) =
      if (context.decisiveTypes operands).all (·.isSigned) then []
      else ((smallValues operands).filter fun value => !type.holds value).map
        fun value => .literalDropped value type := by
  obtain ⟨types, htypes⟩ := exists_inferAll_of_infer h
  have htyped : ∀ operand ∈ operands, (context.type? operand).isSome := (inferAll_eq_ok_iff.mp htypes).1
  rw [result_infer_accumulation htyped, Logged.result_ofRule_eq_ok_iff] at h
  rw [Context.ownEvents, events_infer_accumulation htyped, h]
  exact (List.drop_left).trans (droppedLiterals_inferredOperands htyped type)

/-- What a node with a type adds are warnings. The node is a sum or product, and each warning is about a small
literal among its operands that the type of the node does not hold. -/
theorem exists_of_mem_ownEvents {event : Event} {type : StorageType}
    (htype : (infer context expr).result = .ok type) (h : event ∈ context.ownEvents expr) :
    ∃ op operands, expr = .accumulation op operands ∧
      ∃ value ∈ smallValues operands, type.holds value = false ∧ event = .literalDropped value type := by
  cases expr with
  | accumulation op operands =>
    rw [ownEvents_accumulation htype] at h
    split at h
    · cases h
    · obtain ⟨value, hvalue, rfl⟩ := List.mem_map.mp h
      obtain ⟨hsmall, hholds⟩ := List.mem_filter.mp hvalue
      exact ⟨op, operands, rfl, value, hsmall, by simpa using hholds, rfl⟩
  | _ =>
    obtain ⟨types, htypes⟩ := exists_inferAll_of_infer htype
    rw [ownEvents_eq_warnings htypes htype] at h
    cases h

/-- Warnings before the first sub-expression without a type come from sums and products with a type. -/
theorem exists_of_mem_warningsAmong {subs : List Expr} {event : Event}
    (h : event ∈ context.warningsAmong subs) :
    ∃ op operands type, .accumulation op operands ∈ subs ∧
      (infer context (.accumulation op operands)).result = .ok type ∧
      event ∈ context.ownEvents (.accumulation op operands) ∧
      ∃ value ∈ smallValues operands, type.holds value = false ∧ event = .literalDropped value type := by
  obtain ⟨sub, hsub, hown⟩ := List.mem_flatMap.mp h
  have htyped : (context.type? sub).isSome := List.mem_takeWhile_imp (l := subs) hsub
  obtain ⟨type, htype⟩ := isSome_type?_iff.mp htyped
  obtain ⟨op, operands, rfl, hvalue⟩ := exists_of_mem_ownEvents htype hown
  exact ⟨op, operands, type, (List.takeWhile_sublist _).subset hsub, htype, hown, hvalue⟩

/-- If no operation waits, a log tells the outcome. It reports that the type of a name is missing exactly if
the inference is deferred on that name, then once and at the end. Everything before is a warning of an
inspected sum or product that has a type, about a small literal among its operands that this type does not
hold. -/
theorem Scope.log_tells_outcome (scope : Scope) (pending : Pending) {expr : Expr}
    (hops : expr.ReducesBy (·.NeverWaits)) :
    (∀ name role, .dependencyUnresolved name role ∈ (scope.infer pending expr).events ↔
        (scope.infer pending expr).result = .error (.waiting name role)) ∧
      (scope.infer pending expr).events =
        (scope.context pending).warningsAmong expr.inspected ++
          deferralEvents (scope.infer pending expr).result ∧
      ∀ event ∈ (scope.context pending).warningsAmong expr.inspected, ∃ op operands type,
        .accumulation op operands ∈ expr.inspected ∧
          (scope.infer pending (.accumulation op operands)).result = .ok type ∧
          event ∈ (scope.context pending).ownEvents (.accumulation op operands) ∧
          ∃ value ∈ smallValues operands, type.holds value = false ∧ event = .literalDropped value type := by
  have hlog := events_infer (scope.context pending) expr
  rw [firstReport_eq_deferralEvents hops] at hlog
  refine ⟨fun name role => ?_, hlog, fun event => exists_of_mem_warningsAmong⟩
  rw [Scope.infer, hlog, List.mem_append, mem_deferralEvents_iff]
  constructor
  · intro h
    rcases h with hwarning | ⟨_, _, hanswer, hreport⟩
    · obtain ⟨_, _, _, -, -, -, _, -, -, hevent⟩ := exists_of_mem_warningsAmong hwarning
      cases hevent
    · cases hreport
      exact hanswer
  · exact fun h => Or.inr ⟨name, role, h, rfl⟩

/-- The scope of the count, with a temporary whose type is not determined. -/
def openCountScope : Scope := countScope.declareTemporary "t" none

/-- A reduction of a sum with a small literal, times the temporary and another such sum. -/
def countProduct : Expr :=
  .accumulation .product [.reduction Reduction.max.operation (.accumulation .sum shiftedCount) ["i"],
    .reference "t" none, .accumulation .sum shiftedCount]

/-- The first sum is warned about, and then the temporary is missed, on which the inference is deferred. The
other sum after the temporary is not looked at. -/
theorem log_tells_outcome_countProduct :
    countProduct.ReducesBy (·.NeverWaits) ∧
      (openCountScope.infer .empty countProduct).events =
        [.literalDropped (-5) (.scalar .uint8), .dependencyUnresolved "t" .temporary] ∧
      (openCountScope.infer .empty countProduct).result = .error (.waiting "t" .temporary) := by
  have hops : countProduct.ReducesBy (·.NeverWaits) :=
    Expr.reducesBy_of_builtIn [.max] rfl Reduction.neverWaits
  have hevents : (openCountScope.infer .empty countProduct).events =
      [.literalDropped (-5) (.scalar .uint8), .dependencyUnresolved "t" .temporary] := by
    decide +kernel
  obtain ⟨hdeferred, -⟩ := openCountScope.log_tells_outcome .empty hops
  exact ⟨hops, hevents, (hdeferred _ _).mp (by simp [hevents])⟩

end StorageTyping
