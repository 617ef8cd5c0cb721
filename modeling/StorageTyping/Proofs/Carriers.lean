import StorageTyping.Proofs.Hoisting
import StorageTyping.Proofs.Log

/-!
# Carriers of integral constants

An integer, a boolean and a typed scalar are carriers of an integral value. The value alone counts: exchanging
the carriers of any integral constants outside callees keeps the type or the deferral of an expression, and the
cause of a failure, and its log (`Scope.infer_recarried`). The place of a failure is the text of a
sub-expression, where the carriers show.

An integral constant has an effect in two ways. By itself it is sized, and as an operand of a sum or product
it counts as small or not. Both look at its value only; for all other nodes an exchange is one of operands
(`Expr.SameNode`).
-/

namespace StorageTyping

/-- The same constant, or else integral constants of the same value. -/
def Literal.SameValue (literal literal' : Literal) : Prop :=
  literal = literal' ∨ ∃ value, literal.integer? = some value ∧ literal'.integer? = some value

/-- Expressions that differ at most in what carries the values of integral constants outside callees. -/
inductive Expr.Recarried : Expr → Expr → Prop where
  | literal {value value' : Literal} (hvalue : value.SameValue value') :
    Recarried (.literal value) (.literal value')
  | reference (name : String) (tag : Option String) : Recarried (.reference name tag) (.reference name tag)
  | element (addressing : Addressing) {aggregate aggregate' index index' : Expr}
    (haggregate : Recarried aggregate aggregate') (hindex : Recarried index index') :
    Recarried (.element addressing aggregate index) (.element addressing aggregate' index')
  | field {aggregate aggregate' : Expr} (haggregate : Recarried aggregate aggregate') (name : String) :
    Recarried (.field aggregate name) (.field aggregate' name)
  | accumulation (op : Accumulation) {operands operands' : List Expr}
    (hoperands : List.Forall₂ Recarried operands operands') :
    Recarried (.accumulation op operands) (.accumulation op operands')
  | binary (op : BinaryOp) {left left' right right' : Expr} (hleft : Recarried left left')
    (hright : Recarried right right') : Recarried (.binary op left right) (.binary op left' right')
  | call (callee : Expr) {arguments arguments' : List Expr}
    (harguments : List.Forall₂ Recarried arguments arguments') :
    Recarried (.call callee arguments) (.call callee arguments')
  | comparison {left left' : Expr} (hleft : Recarried left left') (relation : Relation) {right right' : Expr}
    (hright : Recarried right right') :
    Recarried (.comparison left relation right) (.comparison left' relation right')
  | negation {operand operand' : Expr} (hoperand : Recarried operand operand') :
    Recarried (.negation operand) (.negation operand')
  | junction (op : Junction) {operands operands' : List Expr}
    (hoperands : List.Forall₂ Recarried operands operands') :
    Recarried (.junction op operands) (.junction op operands')
  | conditional {condition condition' consequent consequent' alternative alternative' : Expr}
    (hcondition : Recarried condition condition') (hconsequent : Recarried consequent consequent')
    (halternative : Recarried alternative alternative') :
    Recarried (.conditional condition consequent alternative) (.conditional condition' consequent' alternative')
  | reduction (op : ReductionOperation) {operand operand' : Expr} (hoperand : Recarried operand operand')
    (indices : List String) : Recarried (.reduction op operand indices) (.reduction op operand' indices)

/-- Computations with answers that agree up to the place of a failure, and with the same log. -/
structure Logged.Agree {α : Type} (left right : Logged α) : Prop where
  answer : Alike left.result right.result
  log : left.events = right.events

namespace Logged

variable {α β : Type}

theorem Agree.refl (computation : Logged α) : Agree computation computation := ⟨.same _, rfl⟩

/-- Sequences of parts that agree agree. -/
theorem Agree.bind {first first' : Logged α} {next next' : α → Logged β} (hfirst : first.Agree first')
    (hnext : ∀ a, (next a).Agree (next' a)) : (first >>= next).Agree (first' >>= next') := by
  refine ⟨hfirst.answer.bind fun a => (hnext a).answer, ?_⟩
  rw [events_bind, events_bind, hfirst.log]
  have halike := hfirst.answer
  generalize first.result = answer at halike ⊢
  generalize first'.result = answer' at halike ⊢
  cases halike with
  | same =>
    cases answer with
    | ok a => exact congrArg (first'.events ++ ·) (hnext a).log
    | error failure => rfl
  | rejected => rfl

end Logged

variable {context : Context}

/-- The rules of nodes that differ in their operands only agree. -/
theorem rule_agree {node node' : Expr} (h : node.SameNode node') (types : List StorageType) :
    (node.rule context types).Agree (node'.rule context types) := by
  have hwarnings : node.warnings types = node'.warnings types := by
    cases h with
    | accumulation op hsmall => simp only [Expr.warnings, hsmall]
    | _ => rfl
  have hreport : context.missingReport node = context.missingReport node' := by
    cases h <;> rfl
  exact ⟨rule_alike h types, by rw [events_rule, events_rule, hwarnings, hreport]⟩

/-- Expressions on which inference agrees. -/
def Context.InfersAgreeing (context : Context) (expr expr' : Expr) : Prop :=
  (infer context expr).Agree (infer context expr')

/-- Operands that agree one by one agree together. -/
theorem inferAll_agree {operands operands' : List Expr}
    (h : List.Forall₂ context.InfersAgreeing operands operands') :
    (inferAll context operands).Agree (inferAll context operands') := by
  induction h with
  | nil => exact .refl _
  | cons hfirst _ ih => exact hfirst.bind fun _ => ih.bind fun _ => .refl _

/-- Nodes that differ only in operands that agree agree. -/
theorem infer_agree_of_sameNode {node node' : Expr} (hnode : node.SameNode node')
    (hoperands : List.Forall₂ context.InfersAgreeing node.evaluated node'.evaluated) :
    context.InfersAgreeing node node' := by
  rw [Context.InfersAgreeing, infer_eq context node, infer_eq context node']
  exact (inferAll_agree hoperands).bind fun types => rule_agree hnode types

/-- A signed integer type holds the integers from minus its bound to below it. -/
theorem ScalarType.holds_iff_of_bound {type : ScalarType} {bound : Int} (hinteger : type.isInteger = true)
    (hlowest : type.lowest = -bound) (hhighest : type.highest = bound - 1) (value : Int) :
    type.holds value = true ↔ -bound ≤ value ∧ value < bound := by
  rw [holds_iff_of_isInteger hinteger, hlowest, hhighest, Int.le_sub_one_iff]

namespace Literal

variable {literal literal' : Literal}

/-- Constants of the same value are small alike. -/
theorem SameValue.small?_eq (h : literal.SameValue literal') : literal.small? = literal'.small? := by
  rcases h with rfl | ⟨value, hvalue, hvalue'⟩
  · rfl
  · simp only [small?, hvalue, hvalue']

/-- Constants of the same value have the same type. -/
theorem SameValue.storageType_eq (h : literal.SameValue literal') :
    literal.storageType = literal'.storageType := by
  rcases h with rfl | ⟨value, hvalue, hvalue'⟩
  · rfl
  · rw [storageType_of_integer? hvalue, storageType_of_integer? hvalue']

/-- Constants of the same value agree. -/
theorem SameValue.infer_agree (h : literal.SameValue literal') :
    context.InfersAgreeing (.literal literal) (.literal literal') := by
  rw [Context.InfersAgreeing, infer, infer, h.storageType_eq]
  exact ⟨ofRule_alike _ _ _, by rw [Logged.events_ofRule, Logged.events_ofRule]⟩

/-- An integral constant is `int32` if that holds its value, or else `int64` if that does. -/
theorem infer_of_integer? {value : Int} (h : literal.integer? = some value) :
    (infer context (.literal literal)).result =
      if -2 ^ 31 ≤ value ∧ value < 2 ^ 31 then .ok (.scalar .int32)
      else if -2 ^ 63 ≤ value ∧ value < 2 ^ 63 then .ok (.scalar .int64)
      else .error (.rejected (.integerTooLarge (toString value)) (some literal.render)) := by
  have hint32 : ScalarType.int32.holds value = true ↔ -2 ^ 31 ≤ value ∧ value < 2 ^ 31 :=
    ScalarType.holds_iff_of_bound rfl rfl rfl value
  have hint64 : ScalarType.int64.holds value = true ↔ -2 ^ 63 ≤ value ∧ value < 2 ^ 63 :=
    ScalarType.holds_iff_of_bound rfl rfl rfl value
  rw [infer, storageType_of_integer? h, integerType]
  simp only [hint32, hint64]
  split
  · rfl
  · split <;> rfl

end Literal

namespace Expr.Recarried

/-- Nothing need be exchanged. -/
theorem refl : ∀ expr : Expr, expr.Recarried expr
  | .literal _ => .literal (Or.inl rfl)
  | .reference name tag => .reference name tag
  | .element addressing aggregate index => .element addressing (refl aggregate) (refl index)
  | .field aggregate name => .field (refl aggregate) name
  | .accumulation op operands => .accumulation op (List.forall₂_same.mpr fun operand _ => refl operand)
  | .binary op left right => .binary op (refl left) (refl right)
  | .call callee arguments => .call callee (List.forall₂_same.mpr fun argument _ => refl argument)
  | .comparison left relation right => .comparison (refl left) relation (refl right)
  | .negation operand => .negation (refl operand)
  | .junction op operands => .junction op (List.forall₂_same.mpr fun operand _ => refl operand)
  | .conditional condition consequent alternative =>
    .conditional (refl condition) (refl consequent) (refl alternative)
  | .reduction op operand indices => .reduction op (refl operand) indices

/-- Carriers can be exchanged within any frames. -/
theorem within {expr expr' : Expr} (h : expr.Recarried expr') (frames : List Frame) :
    (expr.within frames).Recarried (expr'.within frames) := by
  have hself (operands : List Expr) : List.Forall₂ Recarried operands operands :=
    List.forall₂_same.mpr fun operand _ => refl operand
  induction frames with
  | nil => exact h
  | cons frame inner ih =>
    rw [Expr.within_cons, Expr.within_cons]
    cases frame with
    | elementAggregate _ index => exact .element _ ih (refl index)
    | elementIndex _ aggregate => exact .element _ (refl aggregate) ih
    | fieldAggregate => exact .field ih _
    | accumulationOperand _ before after =>
      exact .accumulation _ (List.rel_append (hself before) (.cons ih (hself after)))
    | binaryLeft _ right => exact .binary _ ih (refl right)
    | binaryRight _ left => exact .binary _ (refl left) ih
    | callArgument _ before after => exact .call _ (List.rel_append (hself before) (.cons ih (hself after)))
    | comparisonLeft _ right => exact .comparison ih _ (refl right)
    | comparisonRight left => exact .comparison (refl left) _ ih
    | negationOperand => exact .negation ih
    | junctionOperand _ before after => exact .junction _ (List.rel_append (hself before) (.cons ih (hself after)))
    | conditionalCondition consequent alternative => exact .conditional ih (refl consequent) (refl alternative)
    | conditionalConsequent condition alternative => exact .conditional (refl condition) ih (refl alternative)
    | conditionalAlternative condition consequent => exact .conditional (refl condition) (refl consequent) ih
    | reductionOperand => exact .reduction _ ih _

/-- A constant exchanged is small as before, and nothing else becomes one. -/
theorem small?_eq {expr expr' : Expr} (h : expr.Recarried expr') : expr.small? = expr'.small? := by
  cases h with
  | literal hvalue => exact hvalue.small?_eq
  | _ => rfl

theorem map_small?_eq {operands operands' : List Expr} (h : List.Forall₂ Recarried operands operands') :
    operands.map (·.small?) = operands'.map (·.small?) := by
  induction h with
  | nil => rfl
  | cons hfirst _ ih => rw [List.map_cons, List.map_cons, hfirst.small?_eq, ih]

/-- Where it is not a constant, an exchange is one of operands. -/
theorem sameNode {expr expr' : Expr} (h : expr.Recarried expr') (hliteral : expr.literal? = none) :
    expr.SameNode expr' ∧ List.Forall₂ Recarried expr.evaluated expr'.evaluated := by
  cases h with
  | literal => cases hliteral
  | reference => exact ⟨.same _, .nil⟩
  | element _ haggregate _ => exact ⟨.element .., .cons haggregate .nil⟩
  | field haggregate => exact ⟨.field .., .cons haggregate .nil⟩
  | accumulation op hoperands => exact ⟨.accumulation op (map_small?_eq hoperands), hoperands⟩
  | binary _ hleft hright => exact ⟨.binary .., .cons hleft (.cons hright .nil)⟩
  | call _ harguments => exact ⟨.call .., harguments⟩
  | comparison => exact ⟨.comparison .., .nil⟩
  | negation => exact ⟨.negation .., .nil⟩
  | junction => exact ⟨.junction .., .nil⟩
  | conditional hcondition hconsequent halternative =>
    exact ⟨.conditional .., .cons hcondition (.cons hconsequent (.cons halternative .nil))⟩
  | reduction _ hoperand => exact ⟨.reduction .., .cons hoperand .nil⟩

/-- An exchange of carriers changes neither the answer, up to the place of a failure, nor the log. -/
theorem infer_agree {expr expr' : Expr} (h : expr.Recarried expr') : context.InfersAgreeing expr expr' := by
  induction expr using Expr.evaluated_induction generalizing expr' with
  | node expr ih =>
    cases hliteral : expr.literal? with
    | some value =>
      cases h with
      | literal hvalue => exact hvalue.infer_agree
      | _ => cases hliteral
    | none =>
      obtain ⟨hnode, hoperands⟩ := h.sameNode hliteral
      have hboth := (List.forall₂_and_left _ _).mpr ⟨ih, hoperands⟩
      exact infer_agree_of_sameNode hnode (hboth.imp fun _ _ hoperand => hoperand.1 hoperand.2)

end Expr.Recarried

/-- What carries integral constants outside callees does not count: the type or the deferral stays the same, or
else the cause of the failure, and so does the log, whatever operations reduce. An integral constant by itself
is `int32` if its value needs no more than 32 bits, else `int64` if it needs no more than 64, and otherwise too
large, with the value in decimal. -/
theorem Scope.infer_recarried (scope : Scope) (pending : Pending) :
    (∀ expr expr' : Expr, expr.Recarried expr' →
        Alike (scope.infer pending expr).result (scope.infer pending expr').result ∧
          (scope.infer pending expr).events = (scope.infer pending expr').events) ∧
      ∀ (literal : Literal) (value : Int), literal.integer? = some value →
        (scope.infer pending (.literal literal)).result =
            (if -2 ^ 31 ≤ value ∧ value < 2 ^ 31 then .ok (.scalar .int32)
            else if -2 ^ 63 ≤ value ∧ value < 2 ^ 63 then .ok (.scalar .int64)
            else .error (.rejected (.integerTooLarge (toString value)) (some literal.render))) := by
  constructor
  · intro expr expr' h
    have hagree : (scope.context pending).InfersAgreeing expr expr' := h.infer_agree
    exact ⟨hagree.answer, hagree.log⟩
  · exact fun literal value h => Literal.infer_of_integer? h

/-- The operands of `shiftedCount`, with a typed scalar for the first constant. -/
def scalarShiftedCount : List Expr :=
  [.literal (.scalar (.integer .int8 (-5) ⟨rfl, rfl⟩)), .reference "n" none, .literal (.integer 3)]

/-- A field of the reduced sum is missing whatever carries the constant, and there is the same warning. Only
the place of the failure is written differently. -/
theorem infer_recarried_shiftedCount :
    let left := Expr.field (.reduction exclusiveOr (.accumulation .sum shiftedCount) ["i"]) "x"
    let right := Expr.field (.reduction exclusiveOr (.accumulation .sum scalarShiftedCount) ["i"]) "x"
    left.Recarried right ∧
      Alike (countScope.infer .empty left).result (countScope.infer .empty right).result ∧
      (countScope.infer .empty left).result =
        .error (.rejected (.notRecord (.scalar .uint8) "x") (some "xor(i, -5 + n + 3).x")) ∧
      (countScope.infer .empty right).result =
        .error (.rejected (.notRecord (.scalar .uint8) "x") (some "xor(i, int8(-5) + n + 3).x")) ∧
      (countScope.infer .empty left).events = [.literalDropped (-5) (.scalar .uint8)] ∧
      (countScope.infer .empty left).events = (countScope.infer .empty right).events ∧
      (countScope.infer .empty (.literal (.integer (2 ^ 31)))).result = .ok (.scalar .int64) := by
  have hconstant : (Expr.literal (.integer (-5))).Recarried
      (.literal (.scalar (.integer .int8 (-5) ⟨rfl, rfl⟩))) := .literal (Or.inr ⟨-5, rfl, rfl⟩)
  have hsum := hconstant.within
    [.fieldAggregate "x", .reductionOperand exclusiveOr ["i"],
      .accumulationOperand .sum [] [.reference "n" none, .literal (.integer 3)]]
  obtain ⟨hrecarried, hsized⟩ := countScope.infer_recarried .empty
  obtain ⟨halike, hevents⟩ := hrecarried _ _ hsum
  refine ⟨hsum, halike, by decide +kernel, by decide +kernel, by decide +kernel, hevents, ?_⟩
  exact hsized (.integer (2 ^ 31)) (2 ^ 31) rfl

end StorageTyping
