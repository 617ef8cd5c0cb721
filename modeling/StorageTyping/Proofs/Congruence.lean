import Mathlib.Data.List.Forall2
import StorageTyping.Proofs.Inspection

/-!
# Congruence of inference

What shows of its operands at a node is their answers and which operands of a sum or product are small
constants. Two nodes that differ in their operands only, but not in this, have answers that agree up to the
place of a failure (`infer_alike_of_sameNode`). The place has to be left out, since it is rendered with the
operands in it.
-/

namespace StorageTyping

/-- Answers that agree up to the place of a failure. -/
inductive Alike {α : Type} : Except Failure α → Except Failure α → Prop where
  | same (answer : Except Failure α) : Alike answer answer
  | rejected (cause : Cause) (left right : Option String) :
    Alike (.error (.rejected cause left)) (.error (.rejected cause right))

/-- Sequences of parts with answers alike have answers alike. -/
theorem Alike.bind {α β : Type} {first first' : Logged α} {next next' : α → Logged β}
    (hfirst : Alike first.result first'.result) (hnext : ∀ a, Alike (next a).result (next' a).result) :
    Alike (first >>= next).result (first' >>= next').result := by
  rw [Logged.result_bind, Logged.result_bind]
  generalize first.result = answer at hfirst ⊢
  generalize first'.result = answer' at hfirst ⊢
  cases hfirst with
  | same =>
    cases answer with
    | ok a => exact hnext a
    | error failure => exact .same _
  | rejected cause left right => exact .rejected cause left right

/-- A rule has answers alike wherever it is placed. -/
theorem ofRule_alike {α : Type} (left right : Option String) (rule : Except Cause α) :
    Alike (Logged.ofRule left rule).result (Logged.ofRule right rule).result := by
  cases rule with
  | ok a => exact .same _
  | error cause => exact .rejected cause left right

/-- An answer from elsewhere is the same up to its place wherever it is taken over. -/
theorem ofAnswer_alike {α : Type} (left right : String) (answer : Except Failure α) :
    Alike (Logged.ofAnswer left answer).result (Logged.ofAnswer right answer).result := by
  rcases answer with (_ | ⟨cause, _ | _⟩) | a
  · exact .same _
  · exact .rejected cause left right
  · exact .same _
  · exact .same _

/-- Nodes that differ in their operands only, the callee apart, and in these not as to which operands of a
sum or product are small constants. -/
inductive Expr.SameNode : Expr → Expr → Prop where
  | same (expr : Expr) : SameNode expr expr
  | element (addressing : Addressing) (aggregate aggregate' index index' : Expr) :
    SameNode (.element addressing aggregate index) (.element addressing aggregate' index')
  | field (aggregate aggregate' : Expr) (name : String) :
    SameNode (.field aggregate name) (.field aggregate' name)
  | accumulation (op : Accumulation) {operands operands' : List Expr}
    (hsmall : operands.map (·.small?) = operands'.map (·.small?)) :
    SameNode (.accumulation op operands) (.accumulation op operands')
  | binary (op : BinaryOp) (left left' right right' : Expr) :
    SameNode (.binary op left right) (.binary op left' right')
  | call (callee : Expr) (arguments arguments' : List Expr) :
    SameNode (.call callee arguments) (.call callee arguments')
  | comparison (relation : Relation) (left left' right right' : Expr) :
    SameNode (.comparison left relation right) (.comparison left' relation right')
  | negation (operand operand' : Expr) : SameNode (.negation operand) (.negation operand')
  | junction (op : Junction) (operands operands' : List Expr) :
    SameNode (.junction op operands) (.junction op operands')
  | conditional (condition condition' consequent consequent' alternative alternative' : Expr) :
    SameNode (.conditional condition consequent alternative) (.conditional condition' consequent' alternative')
  | reduction (op : ReductionOperation) (operand operand' : Expr) (indices : List String) :
    SameNode (.reduction op operand indices) (.reduction op operand' indices)

variable {context : Context}

/-- The rules of such nodes give answers alike. -/
theorem rule_alike {node node' : Expr} (h : node.SameNode node') (types : List StorageType) :
    Alike (node.rule context types).result (node'.rule context types).result := by
  cases h with
  | same => exact .same _
  | accumulation op hsmall =>
    simp only [Expr.rule, hsmall]
    exact (ofRule_alike _ _ _).bind fun _ => .same _
  | call callee =>
    simp only [Expr.rule]
    cases context.callType? callee.calleeName types with
    | some type => exact .same _
    | none => exact .rejected _ _ _
  | comparison => exact .same _
  | negation => exact .same _
  | junction => exact .same _
  -- the other nodes have a rule for as many types as they have operands only
  | element =>
    rcases types with _ | ⟨_, _ | _⟩
    exacts [.rejected .., .same _, .rejected ..]
  | field =>
    rcases types with _ | ⟨_, _ | _⟩
    exacts [.rejected .., ofRule_alike .., .rejected ..]
  | binary =>
    rcases types with _ | ⟨_, _ | ⟨_, _ | _⟩⟩
    exacts [.rejected .., .rejected .., ofRule_alike .., .rejected ..]
  | conditional =>
    rcases types with _ | ⟨_, _ | ⟨_, _ | ⟨_, _ | _⟩⟩⟩
    exacts [.rejected .., .rejected .., .rejected .., ofRule_alike .., .rejected ..]
  | reduction =>
    rcases types with _ | ⟨_, _ | _⟩
    exacts [.rejected .., ofAnswer_alike .., .rejected ..]

/-- Expressions with answers alike. -/
def Context.InfersAlike (context : Context) (expr expr' : Expr) : Prop :=
  Alike (infer context expr).result (infer context expr').result

/-- Operands with answers alike, one by one, have them together. -/
theorem inferAll_alike {operands operands' : List Expr}
    (h : List.Forall₂ context.InfersAlike operands operands') :
    Alike (inferAll context operands).result (inferAll context operands').result := by
  induction h with
  | nil => exact .same _
  | cons hfirst _ ih => exact hfirst.bind fun _ => ih.bind fun _ => .same _

/-- Nodes that differ in operands with answers alike only have answers alike. -/
theorem infer_alike_of_sameNode {node node' : Expr} (hnode : node.SameNode node')
    (hoperands : List.Forall₂ context.InfersAlike node.evaluated node'.evaluated) :
    context.InfersAlike node node' := by
  rw [Context.InfersAlike, infer_eq context node, infer_eq context node']
  exact (inferAll_alike hoperands).bind fun types => rule_alike hnode types

end StorageTyping
