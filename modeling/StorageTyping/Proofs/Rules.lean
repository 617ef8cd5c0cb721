import StorageTyping.Inference.Basic
import StorageTyping.Proofs.Joins

/-!
# Rules that widen

The operators, sums and products, and the functions of the mathematical library give a type that is
an operand's or of a higher grade, and a scalar if all operands are scalars. Sums and products may
leave small constants out of account; everything else about them holds for their other operands.
-/

namespace StorageTyping

/-- A small constant has a signed scalar type, also where its type is given. -/
theorem exists_signed_of_small? {context : Context} {expr : Expr} {value : Int} {type : StorageType}
    (hsmall : expr.small? = some value) (h : (infer context expr).result = .ok type) :
    ∃ scalar : ScalarType, type = .scalar scalar ∧ scalar.category = .signed := by
  cases expr with
  | literal literal =>
    obtain ⟨hinteger, -⟩ := Option.filter_eq_some_iff.mp hsmall
    rw [infer, Logged.result_ofRule_eq_ok_iff, Literal.storageType_of_integer? hinteger] at h
    unfold integerType at h
    split at h
    · cases h
      exact ⟨.int32, rfl, rfl⟩
    · split at h
      · cases h
        exact ⟨.int64, rfl, rfl⟩
      · cases h
  | _ => contradiction

namespace MathLibrary

/-- The precision of a function is that of its argument or of a higher grade. -/
theorem eq_or_grade_lt_of_computeType {type result : ScalarType} (h : computeType type = some result) :
    result = type ∨ type.grade < result.grade := by
  revert h
  cases type <;> cases result <;> decide

/-- The result of a function is of the type of an argument or of a higher grade. -/
theorem Family.eq_or_grade_lt_of_resultType {family : Family} {types : List ScalarType}
    {type result : ScalarType} (hmem : type ∈ types) (h : family.resultType types = some result) :
    result = type ∨ type.grade < result.grade := by
  unfold Family.resultType at h
  split at h
  · cases List.mem_singleton.mp hmem
    exact eq_or_grade_lt_of_computeType h
  · obtain ⟨joined, hjoined, hcompute⟩ := Option.bind_eq_some_iff.mp h
    rcases ScalarType.eq_or_grade_lt_of_joinAll hmem hjoined with rfl | hlt
    · exact eq_or_grade_lt_of_computeType hcompute
    · rcases eq_or_grade_lt_of_computeType hcompute with rfl | hlt'
      · exact Or.inr hlt
      · exact Or.inr (Nat.lt_trans hlt hlt')
  · split at h
    · cases h
      exact Or.inl (List.mem_singleton.mp hmem).symm
    · cases h
  · split at h
    · cases h
    · exact ScalarType.eq_or_grade_lt_of_joinAll hmem h
  · cases h

theorem eq_map_of_mapM_scalar? {arguments : List StorageType} {types : List ScalarType}
    (h : arguments.mapM (·.scalar?) = some types) : arguments = types.map .scalar := by
  induction arguments generalizing types with
  | nil =>
    cases h
    rfl
  | cons argument rest ih =>
    simp only [List.mapM_cons, Option.bind_eq_bind, Option.bind_eq_some_iff, Option.pure_def,
      Option.some.injEq] at h
    obtain ⟨type, htype, others, hothers, rfl⟩ := h
    rw [ih hothers, StorageType.scalar?_eq_some_iff.mp htype, List.map_cons]

/-- A library function has a scalar result, which its arguments are widened to. -/
theorem widensTo_of_function? {name : String} {arguments : List StorageType} {signature : Signature}
    (h : function? name arguments = some signature) :
    signature.result.isCustom = false ∧
      ∀ argument ∈ arguments, argument.WidensTo signature.result := by
  simp only [function?, bind, Option.bind_eq_some_iff, pure, Option.some.injEq] at h
  obtain ⟨family, -, types, htypes, result, hresult, rfl⟩ := h
  refine ⟨rfl, fun argument hargument => ?_⟩
  rw [eq_map_of_mapM_scalar? htypes] at hargument
  obtain ⟨type, htype, rfl⟩ := List.mem_map.mp hargument
  rcases Family.eq_or_grade_lt_of_resultType htype hresult with rfl | hlt
  · exact Or.inl rfl
  · exact Or.inr hlt

end MathLibrary

end StorageTyping
