import StorageTyping.Proofs.Assumptions

/-!
# Joins of operand sets

The outcome of a join depends on which types there are, not on their order or number: it is the same
type, or a failure of the same kind (`StorageType.joinAll_alike_of_mem_iff`). Without operands there
is no join, and two different custom types do not have one. Which two of them a failure names does
depend on the order: the first custom type and the first one after it that differs.

A sum or product therefore has a type that does not depend on the order of its operands, small
constants included (`result_accumulation_eq_ok_of_mem_iff`).
-/

namespace StorageTyping

namespace StorageType

/-- Outcomes of joins that are the same type or failures of the same kind. -/
inductive JoinsAlike : Except Cause StorageType → Except Cause StorageType → Prop
  | same (type : StorageType) : JoinsAlike (.ok type) (.ok type)
  | noOperands : JoinsAlike (.error .noOperands) (.error .noOperands)
  | mismatch (left right left' right' : StorageType) :
      JoinsAlike (.error (.mismatch left right)) (.error (.mismatch left' right'))

/-- The first custom type among some types, and the first one after it that is a different one. -/
def FirstMismatch (types : List StorageType) (first other : StorageType) : Prop :=
  ∃ before between after, types = before ++ first :: (between ++ other :: after) ∧
    (∀ type ∈ before, type.isCustom = false) ∧ first.isCustom = true ∧
    (∀ type ∈ between, type.isCustom = true → type = first) ∧ other.isCustom = true ∧ other ≠ first

variable {types left right : List StorageType} {first other : StorageType}

/-- A join is a type, or there are no operands, or two custom operands do not match. -/
theorem joinAll_cases (types : List StorageType) :
    (∃ joined, joinAll types = .ok joined) ∨ types = [] ∧ joinAll types = .error .noOperands ∨
      ∃ first other, joinAll types = .error (.mismatch first other) := by
  rcases scalars_or_exists_custom types with hscalars | ⟨custom, hmem, hcustom⟩
  · cases types with
    | nil => exact Or.inr (Or.inl ⟨rfl, rfl⟩)
    | cons type rest =>
      obtain ⟨joined, hjoined, -⟩ := exists_joinAll_of_scalars (List.cons_ne_nil type rest) hscalars
      exact Or.inl ⟨.scalar joined, hjoined⟩
  · have hfilter : custom ∈ types.filter (·.isCustom) := List.mem_filter.mpr ⟨hmem, hcustom⟩
    unfold joinAll
    split
    · split
      · exact Or.inr (Or.inr ⟨_, _, rfl⟩)
      · exact Or.inl ⟨_, rfl⟩
    · rename_i hempty
      rw [hempty] at hfilter
      cases hfilter

/-- There is a lack of operands exactly if there are none. -/
theorem joinAll_eq_noOperands_iff : joinAll types = .error .noOperands ↔ types = [] := by
  constructor
  · intro h
    rcases joinAll_cases types with ⟨joined, hjoined⟩ | ⟨hempty, -⟩ | ⟨first, other, hmismatch⟩
    · cases h.symm.trans hjoined
    · exact hempty
    · cases h.symm.trans hmismatch
  · intro h
    rw [h, joinAll_nil]

/-- A mismatch names the first custom type and the first later one that differs from it. -/
theorem joinAll_eq_mismatch_iff :
    joinAll types = .error (.mismatch first other) ↔ FirstMismatch types first other := by
  have hfind (after : List StorageType) :
      (after.filter (·.isCustom)).find? (· ≠ first) = some other ↔
        (∃ between last, after = between ++ other :: last ∧
          ∀ type ∈ between, type.isCustom = true → type = first) ∧
        other.isCustom = true ∧ other ≠ first := by
    rw [List.find?_filter, List.find?_eq_some_iff_append]
    simp only [decide_eq_true_eq, Bool.not_eq_true', decide_eq_false_iff_not, not_and, not_not]
    exact and_comm
  have hjoin : joinAll types = .error (.mismatch first other) ↔
      ∃ others, types.filter (·.isCustom) = first :: others ∧ others.find? (· ≠ first) = some other := by
    unfold joinAll
    cases types.filter (·.isCustom) with
    | nil => cases ScalarType.joinAll (types.filterMap (·.scalar?)) <;> simp
    | cons head others =>
      simp only [List.cons.injEq]
      constructor
      · intro h
        split at h
        · rename_i found hfound
          cases h
          exact ⟨others, ⟨rfl, rfl⟩, hfound⟩
        · cases h
      · intro h
        obtain ⟨_, ⟨rfl, rfl⟩, hfound⟩ := h
        rw [hfound]
  rw [hjoin]
  constructor
  · intro h
    obtain ⟨others, hfilter, hothers⟩ := h
    obtain ⟨before, after, rfl, hbefore, hfirst, rfl⟩ := List.filter_eq_cons_iff.mp hfilter
    obtain ⟨⟨between, last, rfl, hbetween⟩, hother, hne⟩ := (hfind after).mp hothers
    exact ⟨before, between, last, rfl, fun type htype => by simpa using hbefore type htype, hfirst,
      hbetween, hother, hne⟩
  · intro h
    obtain ⟨before, between, last, rfl, hbefore, hfirst, hbetween, hother, hne⟩ := h
    refine ⟨_, List.filter_eq_cons_iff.mpr ⟨before, _, rfl, fun type htype => ?_, hfirst, rfl⟩,
      (hfind _).mpr ⟨⟨between, last, rfl, hbetween⟩, hother, hne⟩⟩
    simp [hbefore type htype]

/-- There is a mismatch exactly if two custom types differ. -/
theorem exists_mismatch_iff :
    (∃ first other, joinAll types = .error (.mismatch first other)) ↔
      ∃ type ∈ types, ∃ type' ∈ types, type.isCustom = true ∧ type'.isCustom = true ∧ type ≠ type' := by
  constructor
  · intro h
    obtain ⟨first, other, hmismatch⟩ := h
    obtain ⟨before, between, after, rfl, -, hfirst, -, hother, hne⟩ := joinAll_eq_mismatch_iff.mp hmismatch
    exact ⟨first, by simp, other, by simp, hfirst, hother, hne.symm⟩
  · intro h
    obtain ⟨type, htype, type', htype', hcustom, hcustom', hne⟩ := h
    rcases joinAll_cases types with ⟨joined, hjoined⟩ | ⟨rfl, -⟩ | hmismatch
    · obtain ⟨-, hsame⟩ := (joinAll_eq_ok_iff_of_isCustom htype hcustom).mp hjoined
      exact absurd (hsame type' htype' hcustom').symm hne
    · cases htype
    · exact hmismatch

/-- Joins of the same types have outcomes of the same kind, and the same type if they have one. -/
theorem joinAll_alike_of_mem_iff (h : ∀ type, type ∈ left ↔ type ∈ right) :
    JoinsAlike (joinAll left) (joinAll right) := by
  rcases joinAll_cases left with ⟨joined, hjoined⟩ | ⟨rfl, hnone⟩ | hmismatch
  · rw [hjoined, joinAll_eq_ok_of_mem_iff h hjoined]
    exact .same joined
  · have hempty : right = [] := List.eq_nil_iff_forall_not_mem.mpr fun type htype =>
      List.not_mem_nil ((h type).mpr htype)
    rw [hnone, joinAll_eq_noOperands_iff.mpr hempty]
    exact .noOperands
  · obtain ⟨type, htype, type', htype', hdiffer⟩ := exists_mismatch_iff.mp hmismatch
    obtain ⟨first, other, hleft⟩ := hmismatch
    obtain ⟨first', other', hright⟩ :=
      exists_mismatch_iff.mpr ⟨type, (h type).mp htype, type', (h type').mp htype', hdiffer⟩
    rw [hleft, hright]
    exact .mismatch first other first' other'

end StorageType

/-- The type of a sum or product depends only on which operands there are. -/
theorem accumulatedType_eq_ok_of_mem_iff {operands operands' : List Operand} {type : StorageType}
    (h : ∀ operand, operand ∈ operands ↔ operand ∈ operands') (hok : accumulatedType operands = .ok type) :
    accumulatedType operands' = .ok type := by
  have hdeciding : ∀ type, type ∈ decidingTypes operands ↔ type ∈ decidingTypes operands' := by
    simp [decidingTypes, h]
  have hsigned : (decidingTypes operands').all (·.isSigned) = (decidingTypes operands).all (·.isSigned) := by
    rw [Bool.eq_iff_iff]
    simp [hdeciding]
  unfold accumulatedType at hok ⊢
  rw [hsigned]
  split at hok
  · rename_i hall
    rw [if_pos hall]
    exact StorageType.joinAll_eq_ok_of_mem_iff (by simp [h]) hok
  · rename_i hall
    rw [if_neg hall]
    exact StorageType.joinAll_eq_ok_of_mem_iff hdeciding hok

/-- A sum or product of the same expressions, in any order, has the same type. -/
theorem result_accumulation_eq_ok_of_mem_iff {context : Context} {op : Accumulation}
    {operands operands' : List Expr} {type : StorageType}
    (h : ∀ operand, operand ∈ operands ↔ operand ∈ operands')
    (hok : (infer context (.accumulation op operands)).result = .ok type) :
    (infer context (.accumulation op operands')).result = .ok type := by
  obtain ⟨types, htypes, haccumulated⟩ := Context.result_accumulation_eq_ok_iff.mp hok
  obtain ⟨htyped, -⟩ := inferAll_eq_ok_iff.mp htypes
  have htypes' : (inferAll context operands').result = .ok (operands'.filterMap context.type?) :=
    inferAll_eq_ok_iff.mpr ⟨fun operand hoperand => htyped operand ((h operand).mpr hoperand), rfl⟩
  refine Context.result_accumulation_eq_ok_iff.mpr ⟨_, htypes', ?_⟩
  refine accumulatedType_eq_ok_of_mem_iff (fun pair => ?_) haccumulated
  obtain ⟨small, type⟩ := pair
  rw [Context.mem_inferred_iff htypes, Context.mem_inferred_iff htypes']
  simp only [h]

/-- A join depends on the set of its operands only: the same type results, or a failure of the same
kind, for a lack of operands or for two custom types that differ, of which the first is named with the
first later one unlike it. So a sum or product of the same operands in any order has the same type. -/
theorem StorageType.joinAll_of_operand_set :
    (∀ left right, (∀ type, type ∈ left ↔ type ∈ right) → JoinsAlike (joinAll left) (joinAll right)) ∧
      (∀ types, joinAll types = .error .noOperands ↔ types = []) ∧
      (∀ types, (∃ first other, joinAll types = .error (.mismatch first other)) ↔
        ∃ type ∈ types, ∃ type' ∈ types,
          type.isCustom = true ∧ type'.isCustom = true ∧ type ≠ type') ∧
      (∀ types first other,
        joinAll types = .error (.mismatch first other) ↔ FirstMismatch types first other) ∧
      ∀ (scope : Scope) (pending : Pending) (op : Accumulation) (operands operands' : List Expr),
        (∀ operand, operand ∈ operands ↔ operand ∈ operands') → ∀ type,
          (scope.infer pending (.accumulation op operands)).result = .ok type ↔
            (scope.infer pending (.accumulation op operands')).result = .ok type := by
  refine ⟨fun _ _ => joinAll_alike_of_mem_iff, fun _ => joinAll_eq_noOperands_iff,
    fun _ => exists_mismatch_iff, fun _ _ _ => joinAll_eq_mismatch_iff,
    fun scope pending op operands operands' h type => ⟨?_, ?_⟩⟩
  · exact result_accumulation_eq_ok_of_mem_iff h
  · exact result_accumulation_eq_ok_of_mem_iff fun operand => (h operand).symm

/-- An `int32` next to a `float32` asks for single precision also in complex company and in any order;
two blobs do not match, whatever stands between them; and a product may be turned around. -/
theorem StorageType.joinAll_of_operand_set_mixed :
    JoinsAlike (joinAll [.scalar .int32, .scalar .complex64, .scalar .float32])
        (joinAll [.scalar .float32, .scalar .int32, .scalar .complex64, .scalar .int32]) ∧
      joinAll [.scalar .int8, blob "left" 1, .scalar .int32, blob "left" 1, blob "right" 1] =
        .error (.mismatch (blob "left" 1) (blob "right" 1)) ∧
      ((Scope.ofSettings .default).infer .empty
        (.accumulation .product [.literal (.integer 3), .reference "M_PI" none])).result =
          .ok (.scalar .float64) := by
  obtain ⟨halike, -, -, hmismatch, hproduct⟩ := joinAll_of_operand_set
  refine ⟨halike _ _ fun type => by grind, (hmismatch _ _ _).mpr ?_, ?_⟩
  · exact ⟨[.scalar .int8], [.scalar .int32, blob "left" 1], [], rfl, by decide, by decide, by decide,
      by decide, by decide⟩
  · refine (hproduct _ _ _ [.reference "M_PI" none, .literal (.integer 3)] _ (fun operand => ?_) _).mp ?_
    · exact (List.Perm.swap _ _ _).mem_iff
    · rfl

end StorageTyping
