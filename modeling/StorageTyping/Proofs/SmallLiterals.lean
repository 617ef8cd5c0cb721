import Mathlib.Data.List.Basic
import StorageTyping.Proofs.Representation
import StorageTyping.Proofs.Rules
import StorageTyping.Proofs.Stability

/-!
# Small literals in sums and products

Among operands that are not all signed integers, small literals have no part in the type of a sum or
product: the other operands decide, wherever and however many small literals stand between them. The
type that they decide on holds every small literal, unless it is an unsigned integer type; then there is a
warning for each one that it does not hold (`Scope.infer_of_smallLiterals`).

The reason is that a join is not narrower than its operands. With an operand that is no signed integer it
is therefore not `int8`, the only signed type that is too narrow for a small literal.
-/

namespace StorageTyping

/-- The values of the small literals among some operands, in order. -/
def smallValues (operands : List Expr) : List Int := operands.filterMap (·.small?)

/-- The types of the operands that are not small literals, in order. -/
def Context.decisiveTypes (context : Context) (operands : List Expr) : List StorageType :=
  (operands.filter fun operand => operand.small?.isNone).filterMap context.type?

/-- A small literal is below the limit. -/
theorem natAbs_lt_of_mem_smallValues {operands : List Expr} {value : Int} (h : value ∈ smallValues operands) :
    value.natAbs < Literal.smallLimit := by
  obtain ⟨operand, -, hsmall⟩ := List.mem_filterMap.mp h
  obtain ⟨literal, -, hliteral⟩ := Option.bind_eq_some_iff.mp hsmall
  exact Literal.natAbs_lt_of_small? hliteral

/-- Every type but `int8` and the unsigned ones holds all small literals. -/
theorem ScalarType.holds_of_natAbs_lt {type : ScalarType} (hne : type ≠ .int8)
    (hcategory : type.category ≠ .unsigned) {value : Int} (h : value.natAbs < Literal.smallLimit) :
    type.holds value = true := by
  have hbounds : type.holds (-1023) = true ∧ type.holds 1023 = true := by
    cases type <;> first | contradiction | decide
  unfold Literal.smallLimit at h
  exact holds_of_between hbounds.1 hbounds.2 (by omega) (by omega)

/-- A join with an operand that is no signed integer is not `int8`. -/
theorem ne_int8_of_joinAll {types : List StorageType} {type : StorageType} {joined : ScalarType}
    (hmem : type ∈ types) (hsigned : type.isSigned = false)
    (h : StorageType.joinAll types = .ok (.scalar joined)) : joined ≠ .int8 := by
  intro hjoined
  subst hjoined
  rcases StorageType.widensTo_of_joinAll hmem h with heq | hlt
  · rw [← heq] at hsigned
    cases hsigned
  · exact Nat.not_lt_zero _ hlt

/-- A type that operands which are not all signed integers decide on holds all small literals, unless it is
an unsigned one. -/
theorem holds_of_joinAll {types : List StorageType} {joined : ScalarType}
    (hsigned : types.all (·.isSigned) = false) (h : StorageType.joinAll types = .ok (.scalar joined))
    (hcategory : joined.category ≠ .unsigned) {value : Int} (hvalue : value.natAbs < Literal.smallLimit) :
    joined.holds value = true := by
  obtain ⟨type, hmem, htype⟩ := List.all_eq_false.mp hsigned
  have hne := ne_int8_of_joinAll hmem (Bool.eq_false_iff.mpr htype) h
  exact ScalarType.holds_of_natAbs_lt hne hcategory hvalue

section Accumulation

variable {context : Context} {op : Accumulation} {operands : List Expr}

/-- What is known of the operands of a sum or product. -/
def Context.inferredOperands (context : Context) (operands : List Expr) : List Operand :=
  (operands.map (·.small?)).zip (operands.filterMap context.type?)

theorem inferredOperands_eq (htyped : ∀ operand ∈ operands, (context.type? operand).isSome) :
    context.inferredOperands operands = operands.filterMap fun operand =>
      (context.type? operand).map fun type => (operand.small?, type) := by
  induction operands with
  | nil => rfl
  | cons operand rest ih =>
    obtain ⟨hoperand, hrest⟩ := List.forall_mem_cons.mp htyped
    obtain ⟨type, htype⟩ := Option.isSome_iff_exists.mp hoperand
    have ih := ih hrest
    unfold Context.inferredOperands at ih ⊢
    simp [htype, ih]

theorem decidingTypes_inferredOperands (htyped : ∀ operand ∈ operands, (context.type? operand).isSome) :
    decidingTypes (context.inferredOperands operands) = context.decisiveTypes operands := by
  rw [inferredOperands_eq htyped, decidingTypes, Context.decisiveTypes, List.filter_filterMap,
    List.map_filterMap, List.filterMap_filter]
  refine List.filterMap_congr fun operand hoperand => ?_
  cases context.type? operand <;> cases operand.small? <;> simp

theorem smallValues_inferredOperands (htyped : ∀ operand ∈ operands, (context.type? operand).isSome) :
    (context.inferredOperands operands).filterMap (·.1) = smallValues operands := by
  rw [inferredOperands_eq htyped, List.filterMap_filterMap, smallValues]
  refine List.filterMap_congr fun operand hoperand => ?_
  obtain ⟨type, htype⟩ := Option.isSome_iff_exists.mp (htyped operand hoperand)
  simp [htype]

theorem types_inferredOperands (htyped : ∀ operand ∈ operands, (context.type? operand).isSome) :
    (context.inferredOperands operands).map (·.2) = operands.filterMap context.type? := by
  rw [inferredOperands_eq htyped, List.map_filterMap]
  refine List.filterMap_congr fun operand hoperand => ?_
  cases context.type? operand <;> rfl

/-- The rule for sums and products looks at all operands if the others than small literals are signed
integers, and otherwise at these others only. -/
theorem accumulatedType_inferredOperands (htyped : ∀ operand ∈ operands, (context.type? operand).isSome) :
    accumulatedType (context.inferredOperands operands) =
      if (context.decisiveTypes operands).all (·.isSigned) then
        StorageType.joinAll (operands.filterMap context.type?)
      else StorageType.joinAll (context.decisiveTypes operands) := by
  rw [accumulatedType, decidingTypes_inferredOperands htyped, types_inferredOperands htyped]

/-- Warnings are about small literals that are left out and do not fit. -/
theorem droppedLiterals_inferredOperands (htyped : ∀ operand ∈ operands, (context.type? operand).isSome)
    (type : StorageType) :
    droppedLiterals (context.inferredOperands operands) type =
      if (context.decisiveTypes operands).all (·.isSigned) then []
      else ((smallValues operands).filter fun value => !type.holds value).map
        fun value => .literalDropped value type := by
  rw [droppedLiterals, decidingTypes_inferredOperands htyped, smallValues_inferredOperands htyped]
  split
  · rfl
  · rw [← List.filterMap_eq_map, List.filterMap_filter]
    refine List.filterMap_congr fun value _ => ?_
    cases type.holds value <;> rfl

/-- Once all operands have types, the rule for sums and products gives the type. -/
theorem result_infer_accumulation (htyped : ∀ operand ∈ operands, (context.type? operand).isSome) :
    (infer context (.accumulation op operands)).result =
      (Logged.ofRule (some (Expr.accumulation op operands).render)
        (accumulatedType (context.inferredOperands operands))).result := by
  rw [infer, Logged.result_bind, inferAll_eq_ok_iff.mpr ⟨htyped, rfl⟩]
  simp only [Except.bind, Logged.result_bind, Context.inferredOperands]
  cases accumulatedType ((operands.map (·.small?)).zip (operands.filterMap context.type?)) <;> rfl

/-- Beside what the operands report, there are warnings for the small literals that are left out. -/
theorem events_infer_accumulation (htyped : ∀ operand ∈ operands, (context.type? operand).isSome) :
    (infer context (.accumulation op operands)).events = (inferAll context operands).events ++
      match accumulatedType (context.inferredOperands operands) with
      | .ok type => droppedLiterals (context.inferredOperands operands) type
      | .error _ => [] := by
  rw [infer, Logged.events_bind, inferAll_eq_ok_iff.mpr ⟨htyped, rfl⟩]
  simp only [Logged.events_bind, Context.inferredOperands]
  cases accumulatedType ((operands.map (·.small?)).zip (operands.filterMap context.type?)) with
  | ok type => simp [Logged.ofRule, Logged.value, Logged.reportAll]
  | error cause => simp [Logged.ofRule, Logged.fail]

/-- A small literal has a type anywhere. -/
theorem type?_of_small? {operand : Expr} {value : Int} (hsmall : operand.small? = some value) :
    context.type? operand = some (.scalar .int32) := by
  obtain ⟨literal, hliteral, hvalue⟩ := Option.bind_eq_some_iff.mp hsmall
  cases operand with
  | literal other =>
    cases hliteral
    have hholds : ScalarType.int32.holds value = true :=
      ScalarType.holds_of_natAbs_lt (by decide) (by decide) (Literal.natAbs_lt_of_small? hvalue)
    rw [Context.type?_eq_some_iff, infer, Logged.result_ofRule_eq_ok_iff,
      Literal.storageType_of_integer? (Option.filter_eq_some_iff.mp hvalue).1, integerType, if_pos hholds]
  | _ => cases hliteral

/-- With other small literals among them operands have types as before. -/
theorem isSome_type?_of_filter_eq {operands' : List Expr}
    (htyped : ∀ operand ∈ operands, (context.type? operand).isSome)
    (h : (operands'.filter fun operand => operand.small?.isNone) =
      operands.filter fun operand => operand.small?.isNone) :
    ∀ operand ∈ operands', (context.type? operand).isSome := by
  intro operand hoperand
  cases hsmall : operand.small? with
  | some value => simp [type?_of_small? hsmall]
  | none =>
    have hmem : operand ∈ operands'.filter fun operand => operand.small?.isNone :=
      List.mem_filter.mpr ⟨hoperand, by simp [hsmall]⟩
    rw [h] at hmem
    exact htyped operand (List.mem_filter.mp hmem).1

end Accumulation

/-- If the operands of a sum or product other than small literals are not all signed integers, they alone
decide on the type, whatever small literals stand among them. A type that is no unsigned integer type
then represents all small literals, and there is one warning for each that is not represented. If the
other operands are signed integers, all operands decide and there is no warning. -/
theorem Scope.infer_of_smallLiterals {scope : Scope} {pending : Pending} {op : Accumulation}
    {operands : List Expr} (htyped : ∀ operand ∈ operands, ((scope.context pending).type? operand).isSome) :
    (((scope.context pending).decisiveTypes operands).all (·.isSigned) = false →
      (∀ operands' : List Expr, (operands'.filter fun operand => operand.small?.isNone) =
          (operands.filter fun operand => operand.small?.isNone) →
        (scope.infer pending (.accumulation op operands')).result =
          (Logged.ofRule (some (Expr.accumulation op operands').render)
            (StorageType.joinAll ((scope.context pending).decisiveTypes operands))).result) ∧
      (∀ joined,
        StorageType.joinAll ((scope.context pending).decisiveTypes operands) = .ok (.scalar joined) →
        ∀ value ∈ smallValues operands, (joined.holds value = true ↔ joined.Represents value) ∧
          (joined.category ≠ .unsigned → joined.Represents value)) ∧
      (scope.infer pending (.accumulation op operands)).events =
        (inferAll (scope.context pending) operands).events ++
          match StorageType.joinAll ((scope.context pending).decisiveTypes operands) with
          | .ok (.scalar joined) => ((smallValues operands).filter fun value => !joined.holds value).map
              fun value => .literalDropped value (.scalar joined)
          | _ => []) ∧
    (((scope.context pending).decisiveTypes operands).all (·.isSigned) = true →
      (scope.infer pending (.accumulation op operands)).result =
          (Logged.ofRule (some (Expr.accumulation op operands).render)
            (StorageType.joinAll (operands.filterMap (scope.context pending).type?))).result ∧
        (scope.infer pending (.accumulation op operands)).events =
          (inferAll (scope.context pending) operands).events) := by
  constructor
  · intro hsigned
    refine ⟨fun operands' hothers => ?_, fun joined hjoin value hvalue => ?_, ?_⟩
    · have htyped' := isSome_type?_of_filter_eq htyped hothers
      have hdecisive : (scope.context pending).decisiveTypes operands' =
          (scope.context pending).decisiveTypes operands :=
        congrArg (List.filterMap _) hothers
      rw [infer, result_infer_accumulation htyped', accumulatedType_inferredOperands htyped', hdecisive,
        hsigned]
      rfl
    · have hsmall := natAbs_lt_of_mem_smallValues hvalue
      have hiff := joined.holds_iff_represents_of_lt (Nat.lt_trans hsmall (by decide))
      exact ⟨hiff, fun hcategory => hiff.mp (holds_of_joinAll hsigned hjoin hcategory hsmall)⟩
    · rw [infer, events_infer_accumulation htyped, accumulatedType_inferredOperands htyped]
      simp only [droppedLiterals_inferredOperands htyped, hsigned, Bool.false_eq_true, if_false]
      rcases StorageType.joinAll ((scope.context pending).decisiveTypes operands) with cause | joined | custom
      · rfl
      · rfl
      · simp [StorageType.holds, StorageType.scalar?]
  · intro hsigned
    constructor
    · rw [infer, result_infer_accumulation htyped, accumulatedType_inferredOperands htyped, hsigned]
      rfl
    · rw [infer, events_infer_accumulation htyped]
      simp only [droppedLiterals_inferredOperands htyped, hsigned, if_true]
      cases accumulatedType ((scope.context pending).inferredOperands operands) <;> exact List.append_nil _

/-- A scope with an argument that is never negative. -/
def countScope : Scope := (Scope.ofSettings .default).declareArgument "n" (some (.scalar .uint8))

/-- The argument with two small literals, of which one is negative. -/
def shiftedCount : List Expr :=
  [.literal (.integer (-5)), .reference "n" none, .literal (.integer 3)]

/-- The sum is of the type of the argument, as without the literals, and there is a warning for the
negative one, which that type does not represent. -/
theorem infer_of_smallLiterals_shiftedCount :
    (∀ operand ∈ shiftedCount, ((countScope.context .empty).type? operand).isSome) ∧
      (countScope.infer .empty (.accumulation .sum shiftedCount)).result = .ok (.scalar .uint8) ∧
      (countScope.infer .empty (.accumulation .sum [.reference "n" none])).result = .ok (.scalar .uint8) ∧
      ¬ ScalarType.uint8.Represents (-5) ∧ ScalarType.uint8.Represents 3 ∧
      (countScope.infer .empty (.accumulation .sum shiftedCount)).events =
        [.literalDropped (-5) (.scalar .uint8)] := by
  have htyped : ∀ operand ∈ shiftedCount, ((countScope.context .empty).type? operand).isSome := by
    decide +kernel
  have hdecisive : (countScope.context .empty).decisiveTypes shiftedCount = [.scalar .uint8] := by
    decide +kernel
  obtain ⟨hothers, -⟩ := @Scope.infer_of_smallLiterals countScope .empty .sum shiftedCount htyped
  rw [hdecisive] at hothers
  obtain ⟨hresult, hrepresents, hevents⟩ := hothers rfl
  refine ⟨htyped, hresult shiftedCount rfl, hresult [.reference "n" none] rfl, fun h => ?_, ?_, ?_⟩
  · cases (hrepresents .uint8 rfl (-5) (by decide)).1.mpr h
  · exact (hrepresents .uint8 rfl 3 (by decide)).1.mp rfl
  · rw [hevents]
    decide +kernel

end StorageTyping
