import StorageTyping.Proofs.Congruence
import StorageTyping.Proofs.Stability

/-!
# Hoisting into a temporary

A sub-expression with a type can be computed beforehand into a temporary of that type, and a use of the
temporary put in its place: the answer for the whole stays the same up to the place of a failure
(`Scope.infer_hoist_alike`). There is one exception. A small constant that is an operand of a sum or product
counts by its value there, which a temporary does not have.

Where a sub-expression stands is a list of frames, outermost first. The frames leave out callees, which are
names and have no type of their own.
-/

namespace StorageTyping

/-- A node with a hole in the place of one of its parts other than a callee. -/
inductive Frame where
  | elementAggregate (addressing : Addressing) (index : Expr)
  | elementIndex (addressing : Addressing) (aggregate : Expr)
  | fieldAggregate (name : String)
  | accumulationOperand (op : Accumulation) (before after : List Expr)
  | binaryLeft (op : BinaryOp) (right : Expr)
  | binaryRight (op : BinaryOp) (left : Expr)
  | callArgument (callee : Expr) (before after : List Expr)
  | comparisonLeft (relation : Relation) (right : Expr)
  | comparisonRight (left : Expr) (relation : Relation)
  | negationOperand
  | junctionOperand (op : Junction) (before after : List Expr)
  | conditionalCondition (consequent alternative : Expr)
  | conditionalConsequent (condition alternative : Expr)
  | conditionalAlternative (condition consequent : Expr)
  | reductionOperand (op : ReductionOperation) (indices : List String)

namespace Frame

/-- The node with an expression in its hole. -/
def fill (hole : Expr) : Frame → Expr
  | elementAggregate addressing index => .element addressing hole index
  | elementIndex addressing aggregate => .element addressing aggregate hole
  | fieldAggregate name => .field hole name
  | accumulationOperand op before after => .accumulation op (before ++ hole :: after)
  | binaryLeft op right => .binary op hole right
  | binaryRight op left => .binary op left hole
  | callArgument callee before after => .call callee (before ++ hole :: after)
  | comparisonLeft relation right => .comparison hole relation right
  | comparisonRight left relation => .comparison left relation hole
  | negationOperand => .negation hole
  | junctionOperand op before after => .junction op (before ++ hole :: after)
  | conditionalCondition consequent alternative => .conditional hole consequent alternative
  | conditionalConsequent condition alternative => .conditional condition hole alternative
  | conditionalAlternative condition consequent => .conditional condition consequent hole
  | reductionOperand op indices => .reduction op hole indices

/-- Whether the hole is an operand of a sum or product. -/
def isOperand : Frame → Bool
  | accumulationOperand .. => true
  | _ => false

/-- A filled frame is no constant. -/
theorem small?_fill (frame : Frame) (hole : Expr) : (frame.fill hole).small? = none := by
  cases frame <;> rfl

/-- What fills a frame is evaluated at its place among the operands, or else it is not evaluated. -/
theorem evaluated_fill (frame : Frame) :
    (∃ before after, ∀ hole, (frame.fill hole).evaluated = before ++ hole :: after) ∨
      ∀ hole hole', (frame.fill hole).evaluated = (frame.fill hole').evaluated := by
  cases frame with
  | elementAggregate | fieldAggregate | reductionOperand => exact Or.inl ⟨[], [], fun _ => rfl⟩
  | accumulationOperand _ before after | callArgument _ before after =>
    exact Or.inl ⟨before, after, fun _ => rfl⟩
  | binaryLeft _ right => exact Or.inl ⟨[], [right], fun _ => rfl⟩
  | binaryRight _ left => exact Or.inl ⟨[left], [], fun _ => rfl⟩
  | conditionalCondition consequent alternative => exact Or.inl ⟨[], [consequent, alternative], fun _ => rfl⟩
  | conditionalConsequent condition alternative => exact Or.inl ⟨[condition], [alternative], fun _ => rfl⟩
  | conditionalAlternative condition consequent => exact Or.inl ⟨[condition, consequent], [], fun _ => rfl⟩
  | elementIndex | comparisonLeft | comparisonRight | negationOperand | junctionOperand =>
    exact Or.inr fun _ _ => rfl

/-- Filled in two ways a frame gives the same node, unless only one of them is a small constant that is
an operand of a sum or product. -/
theorem sameNode_fill {frame : Frame} {hole hole' : Expr}
    (h : frame.isOperand = true → hole.small? = hole'.small?) :
    (frame.fill hole).SameNode (frame.fill hole') := by
  cases frame with
  | accumulationOperand op before after => exact .accumulation op (by simp [h rfl])
  | elementAggregate | elementIndex => exact .element ..
  | fieldAggregate => exact .field ..
  | binaryLeft | binaryRight => exact .binary ..
  | callArgument => exact .call ..
  | comparisonLeft | comparisonRight => exact .comparison ..
  | negationOperand => exact .negation ..
  | junctionOperand => exact .junction ..
  | conditionalCondition | conditionalConsequent | conditionalAlternative => exact .conditional ..
  | reductionOperand => exact .reduction ..

/-- Whether the innermost of some frames has an operand of a sum or product as its hole. -/
def endInOperand (frames : List Frame) : Bool := frames.getLast?.any isOperand

theorem endInOperand_cons {frame : Frame} {inner : List Frame} (h : endInOperand inner = true) :
    endInOperand (frame :: inner) = true := by
  cases inner with
  | nil => cases h
  | cons second rest => exact h

end Frame

/-- An expression within frames, outermost first. -/
def Expr.within (expr : Expr) : List Frame → Expr
  | [] => expr
  | frame :: inner => frame.fill (expr.within inner)

theorem Expr.within_cons (expr : Expr) (frame : Frame) (inner : List Frame) :
    expr.within (frame :: inner) = frame.fill (expr.within inner) := rfl

variable {context : Context} {expr expr' : Expr}

/-- In a frame around them, too, two expressions are small constants alike where that counts. -/
theorem small?_within (frame : Frame) (inner : List Frame)
    (h : Frame.endInOperand (frame :: inner) = true → expr.small? = expr'.small?) :
    frame.isOperand = true → (expr.within inner).small? = (expr'.within inner).small? := by
  intro hoperand
  cases inner with
  | nil => exact h hoperand
  | cons second rest => exact (second.small?_fill _).trans (second.small?_fill _).symm

/-- Expressions with answers alike can replace each other anywhere. What is asked of them holds if the
first of them is not evaluated there. -/
theorem infersAlike_within {frames : List Frame}
    (hsmall : Frame.endInOperand frames = true → expr.small? = expr'.small?)
    (halike : expr ∈ (expr.within frames).inspected → context.InfersAlike expr expr') :
    context.InfersAlike (expr.within frames) (expr'.within frames) := by
  induction frames with
  | nil => exact halike expr.mem_inspected_self
  | cons frame inner ih =>
    rw [Expr.within_cons] at halike
    rw [Expr.within_cons, Expr.within_cons]
    refine infer_alike_of_sameNode (Frame.sameNode_fill (small?_within frame inner hsmall)) ?_
    have hself (operands : List Expr) : List.Forall₂ context.InfersAlike operands operands :=
      List.forall₂_same.mpr fun _ _ => .same _
    rcases frame.evaluated_fill with ⟨before, after, hevaluated⟩ | hignored
    · have hinner : context.InfersAlike (expr.within inner) (expr'.within inner) := by
        refine ih (fun hoperand => hsmall (Frame.endInOperand_cons hoperand)) fun hmem => halike ?_
        exact Expr.mem_inspected_iff.mpr (Or.inl ⟨expr.within inner, by simp [hevaluated], hmem⟩)
      rw [hevaluated, hevaluated]
      exact List.rel_append (hself before) (.cons hinner (hself after))
    · rw [hignored (expr.within inner) (expr'.within inner)]
      exact hself _

namespace Scope

variable {scope : Scope} {pending : Pending} {name : String}

/-- A name that is neither an index nor a constant stands for its pending type. -/
theorem standing_insert_self (hindex : scope.isIndex name = false) (hsymbol : scope.symbol? name = none)
    (role : Role) (type : StorageType) :
    scope.standing (pending.insert name ⟨role, some type⟩) name = .known type := by
  simp [standing, hindex, hsymbol, declaration?, Standing.ofDeclaration?]

/-- A declaration of a name that is not read changes nothing, not even the log. -/
theorem infer_insert_of_not_read {expr : Expr} (h : name ∉ expr.reads) (declaration : Declaration) :
    scope.infer (pending.insert name declaration) expr = scope.infer pending expr := by
  have hcalls : (scope.context (pending.insert name declaration)).callType? =
      (scope.context pending).callType? := rfl
  have htarget : (scope.context (pending.insert name declaration)).target =
      (scope.context pending).target := rfl
  refine infer_congr hcalls htarget expr fun other hother => ?_
  have hne : name ≠ other := fun heq => h (heq ▸ hother)
  simp only [context, standing, declaration?, Table.find?_insert, if_neg hne]

/-- A sub-expression with a type, outside callees, can be hoisted into a new temporary of that type: the
answer for the whole stays the same up to the place of a failure. The temporary must not be read in the
whole and its name be neither a loop index nor a constant; and what is hoisted must not be a small
constant standing as an operand of a sum or product. The whole may hold reductions by any operation. -/
theorem infer_hoist_alike {frames : List Frame} {expr : Expr} {type : StorageType}
    (htype : (scope.infer pending expr).result = .ok type)
    (hindex : scope.isIndex name = false) (hsymbol : scope.symbol? name = none)
    (hfresh : name ∉ (expr.within frames).reads)
    (hsmall : Frame.endInOperand frames = true → expr.small? = none) :
    Alike (scope.infer pending (expr.within frames)).result
      (scope.infer (pending.insert name ⟨.temporary, some type⟩)
        ((Expr.reference name none).within frames)).result := by
  rw [← infer_insert_of_not_read hfresh ⟨.temporary, some type⟩]
  refine infersAlike_within hsmall fun hinspected => ?_
  have hexpr : (scope.infer (pending.insert name ⟨.temporary, some type⟩) expr).result = .ok type := by
    rw [infer_insert_of_not_read fun hread => hfresh (Expr.mem_reads_of_mem_inspected hinspected hread), htype]
  have hreference : (StorageTyping.infer (scope.context (pending.insert name ⟨.temporary, some type⟩))
      (.reference name none)).result = .ok type :=
    infer_reference_eq_ok_iff.mpr (standing_insert_self hindex hsymbol .temporary type)
  rw [Context.InfersAlike, hreference]
  exact hexpr ▸ .same _

end Scope

/-- The number of the scope and a small constant. -/
def shifted : Expr := .accumulation .sum [.reference "a" none, .literal (.integer 1)]

/-- A reduction in a product with the undetermined temporary. -/
def bitFactor : List Frame :=
  [.accumulationOperand .product [] [.reference "t" none], .reductionOperand exclusiveOr ["i"]]

/-- The sum is no operand for the operation. Hoisted out of it, the sum is replaced by the new temporary in the
place of the failure, and the undetermined temporary is looked at neither way. -/
theorem infer_hoist_alike_bitFactor :
    Alike (openScope.infer .empty (shifted.within bitFactor)).result
        (openScope.infer (Table.empty.insert "v" ⟨.temporary, some (.scalar .float64)⟩)
          ((Expr.reference "v" none).within bitFactor)).result ∧
      (openScope.infer .empty (shifted.within bitFactor)).result =
          .error (.rejected (.mismatch (.scalar .float64) (.scalar .int64)) (some "xor(i, a + 1)")) ∧
        (openScope.infer (Table.empty.insert "v" ⟨.temporary, some (.scalar .float64)⟩)
            ((Expr.reference "v" none).within bitFactor)).result =
          .error (.rejected (.mismatch (.scalar .float64) (.scalar .int64)) (some "xor(i, v)")) :=
  ⟨Scope.infer_hoist_alike rfl rfl rfl (by decide) (by decide), rfl, rfl⟩

/-- A small constant leaves the type of a sum to its other operand, and a temporary does not. -/
example :
    let scope := openScope.declareArgument "b" (some (.scalar .uint8))
    let frames := [Frame.accumulationOperand .sum [.reference "b" none] []]
    (scope.infer .empty ((Expr.literal (.integer 1)).within frames)).result = .ok (.scalar .uint8) ∧
      (scope.infer (Table.empty.insert "v" ⟨.temporary, some (.scalar .int32)⟩)
        ((Expr.reference "v" none).within frames)).result = .ok (.scalar .int32) := ⟨rfl, rfl⟩

end StorageTyping
