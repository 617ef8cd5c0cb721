import Mathlib.Data.List.Forall2
import StorageTyping.Proofs.Rules

/-!
# Types that anticipate others

A type that is found while not everything is known need not be the final one. Inference should not
fail with it where it does not fail with the final one, so the two have to be related.

A type anticipates another one if it is complex only if the other one is, and if it is an integer type
whenever the other one is; then it is signed only if the other one is, and `uint64` only if the other
one is. A custom type, which decides for itself in every join, is anticipated by itself and by all
scalars. Widening is weaker than this: `int32` is of a lower grade than `uint64` but does not
anticipate it, since in the company of a `uint64` it is joined to `float64`.

Joins carry over from the operands to the result that one anticipates the other
(`StorageType.exists_joinAll_of_anticipates`), and so do operators, sums and products, and the
functions of the mathematical library.
-/

namespace StorageTyping

namespace ScalarType

/-- What may be found for a type before everything is known. -/
structure Anticipates (narrow wide : ScalarType) : Prop where
  complex : narrow.isComplex = true → wide.isComplex = true
  integer : wide.isInteger = true → narrow.isInteger = true
  signed : wide.isInteger = true → narrow.category = .signed → wide.category = .signed
  greatest : wide.isInteger = true → narrow = uint64 → wide = uint64

theorem Anticipates.refl (type : ScalarType) : type.Anticipates type :=
  ⟨id, id, fun _ => id, fun _ => id⟩

/-- What is not complex anticipates what is no integer type. -/
theorem anticipates_of_isInteger_eq_false {narrow wide : ScalarType} (hnarrow : narrow.isComplex = false)
    (hwide : wide.isInteger = false) : narrow.Anticipates wide := by
  constructor <;> simp [hnarrow, hwide]

/-- What the join of some types tells about them. -/
structure JoinTells (types : List ScalarType) (joined : ScalarType) : Prop where
  complex : joined.isComplex = true ↔ ∃ type ∈ types, type.isComplex = true
  /-- Integers have an integer join, unless it would have to hold signed values and those of `uint64`. -/
  integer : joined.isInteger = true ↔ (∀ type ∈ types, type.isInteger = true) ∧
    ¬ ((∃ type ∈ types, type.category = .signed) ∧ uint64 ∈ types)
  signed : joined.isInteger = true →
    (joined.category = .signed ↔ ∃ type ∈ types, type.category = .signed)
  greatest : joined.isInteger = true → (joined = uint64 ↔ uint64 ∈ types)

section Joins

variable {types narrows wides : List ScalarType} {joined : ScalarType}

/-- The widest unsigned type is `uint64` exactly if this is among the types. -/
theorem WidestIn.eq_uint64_iff {widest : ScalarType} (h : WidestIn types .unsigned widest) :
    widest = uint64 ↔ uint64 ∈ types := by
  constructor
  · intro heq
    rw [← heq]
    exact h.mem
  · intro hmem
    have hsign := h.category_eq
    have hbits := h.bits_le uint64 hmem rfl
    revert hsign hbits
    cases widest <;> decide

/-- A signed type and an unsigned one are joined by a signed one, unless the latter is `uint64`. -/
theorem joinMixedSign_eq_or {signed unsigned : ScalarType} (hsigned : signed.category = .signed)
    (hunsigned : unsigned.category = .unsigned) :
    unsigned = uint64 ∧ joinMixedSign signed unsigned = float64 ∨
      unsigned ≠ uint64 ∧ (joinMixedSign signed unsigned).category = .signed := by
  revert hsigned hunsigned
  cases signed <;> cases unsigned <;> decide

/-- Some integers tell as much as their signs and whether `uint64` is among them. -/
theorem joinTells_of_isInteger (hall : ∀ type ∈ types, type.isInteger = true)
    (hjoined : (joined = float64 ∧ (∃ type ∈ types, type.category = .signed) ∧ uint64 ∈ types) ∨
      (joined.category = .signed ∧ (∃ type ∈ types, type.category = .signed) ∧ uint64 ∉ types) ∨
      (joined.category = .unsigned ∧ (¬ ∃ type ∈ types, type.category = .signed) ∧
        (joined = uint64 ↔ uint64 ∈ types))) : JoinTells types joined := by
  have hreal : ¬ ∃ type ∈ types, type.isComplex = true := by
    intro h
    obtain ⟨type, hmem, hcomplex⟩ := h
    have hinteger := hall type hmem
    revert hcomplex hinteger
    cases type <;> decide
  rcases hjoined with ⟨rfl, hsigned, hgreatest⟩ | ⟨hcategory, hsigned, hgreatest⟩ |
    ⟨hcategory, hsigned, hgreatest⟩
  · exact ⟨iff_of_false (by decide) hreal,
      iff_of_false (by decide) fun h => h.2 ⟨hsigned, hgreatest⟩,
      fun h => absurd h (by decide), fun h => absurd h (by decide)⟩
  · have hne : joined ≠ uint64 := fun h => by simp [h, category] at hcategory
    exact ⟨iff_of_false (by simp [isComplex, hcategory]) hreal,
      iff_of_true (by simp [isInteger, hcategory]) ⟨hall, fun h => hgreatest h.2⟩,
      fun _ => iff_of_true hcategory hsigned, fun _ => iff_of_false hne hgreatest⟩
  · exact ⟨iff_of_false (by simp [isComplex, hcategory]) hreal,
      iff_of_true (by simp [isInteger, hcategory]) ⟨hall, fun h => hsigned h.1⟩,
      fun _ => iff_of_false (by simp [hcategory]) hsigned, fun _ => hgreatest⟩

theorem joinTells_of_joinIntegers (hall : ∀ type ∈ types, type.isInteger = true)
    (h : joinIntegers types = some joined) : JoinTells types joined := by
  refine joinTells_of_isInteger hall ?_
  cases joinsIntegers_of_eq_some h with
  | @mixed signed unsigned hsigned hunsigned =>
    have hexists : ∃ type ∈ types, type.category = .signed := ⟨signed, hsigned.mem, hsigned.category_eq⟩
    rcases joinMixedSign_eq_or hsigned.category_eq hunsigned.category_eq with ⟨heq, hjoin⟩ | ⟨hne, hjoin⟩
    · exact Or.inl ⟨hjoin, hexists, hunsigned.eq_uint64_iff.mp heq⟩
    · exact Or.inr (Or.inl ⟨hjoin, hexists, fun hmem => hne (hunsigned.eq_uint64_iff.mpr hmem)⟩)
  | signed hwidest hnone =>
    exact Or.inr (Or.inl ⟨hwidest.category_eq, ⟨joined, hwidest.mem, hwidest.category_eq⟩,
      fun hmem => hnone uint64 hmem rfl⟩)
  | unsigned hwidest hnone =>
    refine Or.inr (Or.inr ⟨hwidest.category_eq, fun hsigned => ?_, hwidest.eq_uint64_iff⟩)
    obtain ⟨type, hmem, hcategory⟩ := hsigned
    exact hnone type hmem hcategory

/-- A join of types not all of which are integers is no integer, and complex if one of them is. -/
theorem category_joinReals (types : List ScalarType) :
    (joinReals types).category = if types.any isComplex then .complex else .float := by
  obtain ⟨part, hfloat, hjoin, -⟩ := exists_part_of_joinReals types
  rw [hjoin]
  cases types.any isComplex
  · exact hfloat
  · cases part <;> rfl

theorem joinTells_of_joinAll (h : joinAll types = some joined) : JoinTells types joined := by
  unfold joinAll at h
  split at h
  · rename_i hall
    exact joinTells_of_joinIntegers (List.all_eq_true.mp hall) h
  · rename_i hall
    cases h
    have hcategory := category_joinReals types
    have hinteger : (joinReals types).isInteger = false := by
      unfold isInteger
      rw [hcategory]
      split <;> decide
    have hcomplex : (joinReals types).isComplex = types.any isComplex := by
      change decide ((joinReals types).category = .complex) = _
      rw [hcategory]
      cases types.any isComplex <;> rfl
    refine ⟨by rw [hcomplex, List.any_eq_true], iff_of_false (by simp [hinteger]) fun h => ?_, ?_, ?_⟩
    · exact hall (List.all_eq_true.mpr h.1)
    all_goals
      intro h
      cases hinteger.symm.trans h

/-- A join of types that anticipate others anticipates the join of these. -/
theorem anticipates_of_joinAll {narrow wide : ScalarType}
    (h : ∀ type ∈ narrows, ∃ other ∈ wides, type.Anticipates other) (hnarrow : joinAll narrows = some narrow)
    (hwide : joinAll wides = some wide) : narrow.Anticipates wide := by
  have hnarrows := joinTells_of_joinAll hnarrow
  have hwides := joinTells_of_joinAll hwide
  have hsigned (hall : ∀ type ∈ wides, type.isInteger = true)
      (hexists : ∃ type ∈ narrows, type.category = .signed) : ∃ type ∈ wides, type.category = .signed := by
    obtain ⟨type, hmem, hcategory⟩ := hexists
    obtain ⟨other, hother, hanticipates⟩ := h type hmem
    exact ⟨other, hother, hanticipates.signed (hall other hother) hcategory⟩
  have hgreatest (hall : ∀ type ∈ wides, type.isInteger = true) (hmem : uint64 ∈ narrows) :
      uint64 ∈ wides := by
    obtain ⟨other, hother, hanticipates⟩ := h uint64 hmem
    rw [← hanticipates.greatest (hall other hother) rfl]
    exact hother
  have hinteger (hwideInteger : wide.isInteger = true) : narrow.isInteger = true := by
    obtain ⟨hall, hnot⟩ := hwides.integer.mp hwideInteger
    refine hnarrows.integer.mpr ⟨fun type hmem => ?_, fun hboth => ?_⟩
    · obtain ⟨other, hother, hanticipates⟩ := h type hmem
      exact hanticipates.integer (hall other hother)
    · exact hnot ⟨hsigned hall hboth.1, hgreatest hall hboth.2⟩
  constructor
  · intro hcomplex
    obtain ⟨type, hmem, htype⟩ := hnarrows.complex.mp hcomplex
    obtain ⟨other, hother, hanticipates⟩ := h type hmem
    exact hwides.complex.mpr ⟨other, hother, hanticipates.complex htype⟩
  · exact hinteger
  · intro hwideInteger hcategory
    have hall := (hwides.integer.mp hwideInteger).1
    exact (hwides.signed hwideInteger).mpr
      (hsigned hall ((hnarrows.signed (hinteger hwideInteger)).mp hcategory))
  · intro hwideInteger heq
    have hall := (hwides.integer.mp hwideInteger).1
    exact (hwides.greatest hwideInteger).mpr
      (hgreatest hall ((hnarrows.greatest (hinteger hwideInteger)).mp heq))

end Joins

end ScalarType

namespace StorageType

/-- What may be found for a type before everything is known. -/
inductive Anticipates : StorageType → StorageType → Prop
  | scalar {narrow wide : ScalarType} (h : narrow.Anticipates wide) :
      Anticipates (.scalar narrow) (.scalar wide)
  /-- In a join a custom type takes the place of any scalar. -/
  | absorbed (narrow : ScalarType) {wide : StorageType} (hcustom : wide.isCustom = true) :
      Anticipates (.scalar narrow) wide
  | custom {type : StorageType} (hcustom : type.isCustom = true) : Anticipates type type

theorem Anticipates.refl (type : StorageType) : type.Anticipates type := by
  cases type with
  | scalar type => exact .scalar (.refl type)
  | custom => exact .custom rfl

/-- Nothing else than a custom type is anticipated by it. -/
theorem Anticipates.eq_of_isCustom {narrow wide : StorageType} (h : narrow.Anticipates wide)
    (hcustom : narrow.isCustom = true) : narrow = wide := by
  cases h with
  | scalar => cases hcustom
  | absorbed => cases hcustom
  | custom => rfl

/-- What anticipates a scalar is a scalar. -/
theorem Anticipates.exists_scalar {narrow : StorageType} {wide : ScalarType}
    (h : narrow.Anticipates (.scalar wide)) :
    ∃ scalar, narrow = .scalar scalar ∧ scalar.Anticipates wide := by
  cases h with
  | scalar h => exact ⟨_, rfl, h⟩
  | absorbed _ hcustom => cases hcustom
  | custom hcustom => cases hcustom

theorem Anticipates.isInteger {narrow wide : StorageType} (h : narrow.Anticipates wide)
    (hwide : wide.isInteger = true) : narrow.isInteger = true := by
  cases wide with
  | custom => cases hwide
  | scalar wide =>
    obtain ⟨scalar, rfl, hscalar⟩ := h.exists_scalar
    exact hscalar.integer hwide

/-- Types that anticipate others have a join, and it anticipates that of the others. -/
theorem exists_joinAll_of_anticipates {narrows wides : List StorageType} {wide : StorageType}
    (hne : narrows ≠ []) (h : ∀ type ∈ narrows, ∃ other ∈ wides, type.Anticipates other)
    (hwide : joinAll wides = .ok wide) :
    ∃ narrow, joinAll narrows = .ok narrow ∧ narrow.Anticipates wide := by
  rcases scalars_or_exists_custom wides with hwides | ⟨custom, hmem, hcustom⟩
  · have hnarrows : ∀ type ∈ narrows, type.isCustom = false := by
      intro type htype
      obtain ⟨other, hother, hanticipates⟩ := h type htype
      refine Bool.eq_false_iff.mpr fun hiscustom => ?_
      rw [hanticipates.eq_of_isCustom hiscustom, hwides other hother] at hiscustom
      cases hiscustom
    obtain ⟨wide, rfl, hjoin⟩ := (joinAll_eq_ok_iff_of_scalars hwides).mp hwide
    obtain ⟨narrow, hnarrow, hjoin'⟩ := exists_joinAll_of_scalars hne hnarrows
    refine ⟨.scalar narrow, hnarrow, .scalar ?_⟩
    refine ScalarType.anticipates_of_joinAll (fun type htype => ?_) hjoin' hjoin
    obtain ⟨found, hfound, hscalar⟩ := List.mem_filterMap.mp htype
    obtain ⟨other, hother, hanticipates⟩ := h found hfound
    rw [scalar?_eq_some_iff.mp hscalar] at hanticipates
    cases other with
    | custom => cases hwides _ hother
    | scalar other =>
      obtain ⟨_, heq, hanticipates⟩ := hanticipates.exists_scalar
      cases heq
      exact ⟨other, List.mem_filterMap.mpr ⟨_, hother, rfl⟩, hanticipates⟩
  · obtain ⟨rfl, hall⟩ := (joinAll_eq_ok_iff_of_isCustom hmem hcustom).mp hwide
    have hsame : ∀ type ∈ narrows, type.isCustom = true → type = wide := by
      intro type htype hiscustom
      obtain ⟨other, hother, hanticipates⟩ := h type htype
      obtain rfl := hanticipates.eq_of_isCustom hiscustom
      exact hall _ hother hiscustom
    rcases scalars_or_exists_custom narrows with hnarrows | ⟨narrow, hnarrow, hiscustom⟩
    · obtain ⟨narrow, hnarrow, -⟩ := exists_joinAll_of_scalars hne hnarrows
      exact ⟨.scalar narrow, hnarrow, .absorbed narrow hcustom⟩
    · obtain rfl := hsame narrow hnarrow hiscustom
      exact ⟨narrow, (joinAll_eq_ok_iff_of_isCustom hnarrow hiscustom).mpr ⟨rfl, hsame⟩, .refl _⟩

/-- What is no integer is joined to what is no integer. -/
theorem isInteger_of_joinAll {types : List StorageType} {type joined : StorageType} (hmem : type ∈ types)
    (htype : type.isInteger = false) (h : joinAll types = .ok joined) : joined.isInteger = false := by
  rcases scalars_or_exists_custom types with hscalars | ⟨custom, hcustomMem, hcustom⟩
  · obtain ⟨scalar, rfl, hjoin⟩ := (joinAll_eq_ok_iff_of_scalars hscalars).mp h
    refine Bool.eq_false_iff.mpr fun hinteger => ?_
    have hall := ((ScalarType.joinTells_of_joinAll hjoin).integer.mp hinteger).1
    cases type with
    | custom => cases hscalars _ hmem
    | scalar type => exact Bool.eq_false_iff.mp htype (hall type (List.mem_filterMap.mpr ⟨_, hmem, rfl⟩))
  · obtain ⟨rfl, -⟩ := (joinAll_eq_ok_iff_of_isCustom hcustomMem hcustom).mp h
    cases joined with
    | scalar => cases hcustom
    | custom => rfl

end StorageType

/-- A real type that is no integer anticipates every type that is no integer. -/
theorem StorageType.anticipates_of_isInteger_eq_false {narrow : ScalarType} {wide : StorageType}
    (hnarrow : narrow.isComplex = false) (hwide : wide.isInteger = false) :
    (StorageType.scalar narrow).Anticipates wide := by
  cases wide with
  | scalar wide => exact .scalar (ScalarType.anticipates_of_isInteger_eq_false hnarrow hwide)
  | custom => exact .absorbed narrow rfl

/-- An operator has a result on types that anticipate its operands. -/
theorem BinaryOp.exists_resultType_of_anticipates {op : BinaryOp}
    {left right left' right' wide : StorageType} (hleft : left'.Anticipates left)
    (hright : right'.Anticipates right) (h : op.resultType left right = .ok wide) :
    ∃ narrow, op.resultType left' right' = .ok narrow ∧ narrow.Anticipates wide := by
  have hjoined (hjoin : StorageType.joinAll [left, right] = .ok wide) :
      ∃ narrow, StorageType.joinAll [left', right'] = .ok narrow ∧ narrow.Anticipates wide := by
    refine StorageType.exists_joinAll_of_anticipates (by simp) (fun type htype => ?_) hjoin
    simp only [List.mem_cons, List.not_mem_nil, or_false] at htype
    rcases htype with rfl | rfl
    · exact ⟨left, by simp, hleft⟩
    · exact ⟨right, by simp, hright⟩
  unfold resultType at h ⊢
  split at h
  · rename_i hquotient
    cases h
    simp only [Bool.and_eq_true, decide_eq_true_eq] at hquotient
    rw [if_pos (by simp [hquotient.1.1, hleft.isInteger hquotient.1.2, hright.isInteger hquotient.2])]
    exact ⟨_, rfl, .refl _⟩
  · rename_i hquotient
    split
    · -- The quotient of integers is real, and the operands have become something else than integers.
      rename_i hnarrow
      simp only [Bool.and_eq_true, decide_eq_true_eq] at hnarrow
      refine ⟨_, rfl, StorageType.anticipates_of_isInteger_eq_false rfl ?_⟩
      obtain ⟨type, hmem, htype⟩ : ∃ type ∈ [left, right], type.isInteger = false := by
        refine Decidable.byContradiction fun hnone => hquotient ?_
        simpa [hnarrow] using hnone
      exact StorageType.isInteger_of_joinAll hmem htype h
    · exact hjoined h

/-- A signed scalar anticipates whatever another signed type anticipates that is not signed itself. -/
theorem StorageType.Anticipates.of_isSigned {narrow wide : StorageType} (h : narrow.Anticipates wide)
    (hnarrow : narrow.isSigned = true) (hwide : wide.isSigned = false) {scalar : ScalarType}
    (hscalar : scalar.category = .signed) : (StorageType.scalar scalar).Anticipates wide := by
  cases wide with
  | custom => exact .absorbed scalar rfl
  | scalar wide =>
    obtain ⟨narrow, rfl, hanticipates⟩ := h.exists_scalar
    refine .scalar (ScalarType.anticipates_of_isInteger_eq_false (by simp [ScalarType.isComplex, hscalar])
      (Bool.eq_false_iff.mpr fun hinteger => ?_))
    have hsigned : wide.category = .signed := hanticipates.signed hinteger (of_decide_eq_true hnarrow)
    exact of_decide_eq_false hwide hsigned

theorem mem_decidingTypes_iff {operands : List Operand} {type : StorageType} :
    type ∈ decidingTypes operands ↔ (none, type) ∈ operands := by
  simp [decidingTypes]

section Accumulation

variable {narrows wides : List Operand}
  (hnarrows : ∀ small type, (small, type) ∈ narrows →
    ∃ other, (small, other) ∈ wides ∧ type.Anticipates other)
  (hwides : ∀ small other, (small, other) ∈ wides →
    ∃ type, (small, type) ∈ narrows ∧ type.Anticipates other)
  (hsmall : ∀ value type, (some value, type) ∈ narrows →
    ∃ scalar : ScalarType, type = .scalar scalar ∧ scalar.category = .signed)

include hnarrows in
/-- The types of operands other than small constants anticipate such types. -/
theorem decidingTypes_anticipate :
    ∀ type ∈ decidingTypes narrows, ∃ other ∈ decidingTypes wides, type.Anticipates other := by
  intro type htype
  obtain ⟨other, hother, hanticipates⟩ := hnarrows none type (mem_decidingTypes_iff.mp htype)
  exact ⟨other, mem_decidingTypes_iff.mpr hother, hanticipates⟩

include hnarrows in
/-- The types of all operands anticipate types of operands. -/
theorem operandTypes_anticipate :
    ∀ type ∈ narrows.map (·.2), ∃ other ∈ wides.map (·.2), type.Anticipates other := by
  intro type htype
  obtain ⟨⟨small, _⟩, hoperand, rfl⟩ := List.mem_map.mp htype
  obtain ⟨other, hother, hanticipates⟩ := hnarrows small _ hoperand
  exact ⟨other, List.mem_map.mpr ⟨_, hother, rfl⟩, hanticipates⟩

include hnarrows hwides hsmall in
/-- Small constants among signed operands anticipate what decides once the operands are not all signed. -/
theorem operandTypes_anticipate_decidingTypes (hnarrow : (decidingTypes narrows).all (·.isSigned) = true)
    (hwide : ¬ (decidingTypes wides).all (·.isSigned) = true) :
    ∀ type ∈ narrows.map (·.2), ∃ other ∈ decidingTypes wides, type.Anticipates other := by
  obtain ⟨other, hother, hunsigned⟩ : ∃ other ∈ decidingTypes wides, other.isSigned = false := by
    simpa using hwide
  obtain ⟨type, htype, hanticipates⟩ := hwides none other (mem_decidingTypes_iff.mp hother)
  have hsigned := List.all_eq_true.mp hnarrow type (mem_decidingTypes_iff.mpr htype)
  intro found hfound
  obtain ⟨⟨small, _⟩, hoperand, rfl⟩ := List.mem_map.mp hfound
  cases small with
  | none => exact decidingTypes_anticipate hnarrows _ (mem_decidingTypes_iff.mpr hoperand)
  | some value =>
    obtain ⟨scalar, rfl, hcategory⟩ := hsmall value _ hoperand
    exact ⟨other, hother, hanticipates.of_isSigned hsigned hunsigned hcategory⟩

include hnarrows hwides hsmall in
/-- A sum or product has a type on operands that anticipate others. -/
theorem exists_accumulatedType_of_anticipates {wide : StorageType} (h : accumulatedType wides = .ok wide) :
    ∃ narrow, accumulatedType narrows = .ok narrow ∧ narrow.Anticipates wide := by
  unfold accumulatedType at h ⊢
  -- Small constants may take part among the operands, among those that they anticipate, or in both.
  by_cases hnarrow : (decidingTypes narrows).all (·.isSigned) = true
  · rw [if_pos hnarrow]
    have hne : narrows.map (·.2) ≠ [] := by
      intro hempty
      obtain rfl := List.map_eq_nil_iff.mp hempty
      have hnone : wides = [] := List.eq_nil_iff_forall_not_mem.mpr fun other hother => by
        obtain ⟨type, htype, -⟩ := hwides other.1 other.2 hother
        cases htype
      rw [hnone] at h
      cases h
    split at h
    · exact StorageType.exists_joinAll_of_anticipates hne (operandTypes_anticipate hnarrows) h
    · rename_i hwide
      exact StorageType.exists_joinAll_of_anticipates hne
        (operandTypes_anticipate_decidingTypes hnarrows hwides hsmall hnarrow hwide) h
  · rw [if_neg hnarrow]
    have hne : decidingTypes narrows ≠ [] := fun hempty => hnarrow (by simp [hempty])
    split at h
    · refine StorageType.exists_joinAll_of_anticipates hne (fun type htype => ?_) h
      exact operandTypes_anticipate hnarrows type
        (List.mem_map.mpr ⟨_, mem_decidingTypes_iff.mp htype, rfl⟩)
    · exact StorageType.exists_joinAll_of_anticipates hne (decidingTypes_anticipate hnarrows) h

end Accumulation

namespace MathLibrary

/-- A floating-point function computes on what anticipates its argument, with a real result. -/
theorem exists_computeType_of_anticipates {narrow wide result : ScalarType} (h : narrow.Anticipates wide)
    (hresult : computeType wide = some result) :
    ∃ found, computeType narrow = some found ∧ found.Anticipates result := by
  have hwide : wide.isComplex = false ∧ result.isInteger = false := by
    revert hresult
    cases wide <;> cases result <;> decide
  have hnarrow : narrow.isComplex = false :=
    Bool.eq_false_iff.mpr fun hcomplex => Bool.eq_false_iff.mp hwide.1 (h.complex hcomplex)
  obtain ⟨found, hfound, hreal⟩ : ∃ found, computeType narrow = some found ∧ found.isComplex = false := by
    revert hnarrow
    cases narrow <;> intro hnarrow <;> first | contradiction | exact ⟨_, rfl, rfl⟩
  exact ⟨found, hfound, ScalarType.anticipates_of_isInteger_eq_false hreal hwide.2⟩

/-- Two types that anticipate others have a join that anticipates that of the others. -/
theorem exists_joinAll_pair_of_anticipates {left right left' right' joined : ScalarType}
    (hleft : left'.Anticipates left) (hright : right'.Anticipates right)
    (hjoin : ScalarType.joinAll [left, right] = some joined) :
    ∃ found, ScalarType.joinAll [left', right'] = some found ∧ found.Anticipates joined := by
  obtain ⟨found, hfound⟩ := ScalarType.exists_joinAll_of_ne_nil (List.cons_ne_nil left' [right'])
  refine ⟨found, hfound, ScalarType.anticipates_of_joinAll (fun type htype => ?_) hfound hjoin⟩
  simp only [List.mem_cons, List.not_mem_nil, or_false] at htype
  rcases htype with rfl | rfl
  · exact ⟨left, by simp, hleft⟩
  · exact ⟨right, by simp, hright⟩

/-- A library function has a result on types that anticipate its arguments. -/
theorem Family.exists_resultType_of_anticipates {family : Family} {narrows wides : List ScalarType}
    {result : ScalarType} (h : List.Forall₂ ScalarType.Anticipates narrows wides)
    (hresult : family.resultType wides = some result) :
    ∃ found, family.resultType narrows = some found ∧ found.Anticipates result := by
  unfold Family.resultType at hresult
  split at hresult
  · obtain _ | ⟨harg, ⟨⟩⟩ := h
    exact exists_computeType_of_anticipates harg hresult
  · obtain _ | ⟨hleft, _ | ⟨hright, ⟨⟩⟩⟩ := h
    obtain ⟨joined, hjoined, hcompute⟩ := Option.bind_eq_some_iff.mp hresult
    obtain ⟨found, hfound, hanticipates⟩ := exists_joinAll_pair_of_anticipates hleft hright hjoined
    obtain ⟨computed, hcomputed, hresult⟩ := exists_computeType_of_anticipates hanticipates hcompute
    exact ⟨computed, Option.bind_eq_some_iff.mpr ⟨found, hfound, hcomputed⟩, hresult⟩
  · obtain _ | ⟨harg, ⟨⟩⟩ := h
    split at hresult
    · rename_i hinteger
      cases hresult
      exact ⟨_, if_pos (harg.integer hinteger), harg⟩
    · cases hresult
  · obtain _ | ⟨hleft, _ | ⟨hright, ⟨⟩⟩⟩ := h
    split at hresult
    · cases hresult
    · rename_i hreal
      obtain ⟨found, hfound, hanticipates⟩ := exists_joinAll_pair_of_anticipates hleft hright hresult
      refine ⟨found, ?_, hanticipates⟩
      rw [Family.resultType, if_neg, hfound]
      intro hcomplex
      simp only [Bool.or_eq_true] at hcomplex hreal
      exact hreal (hcomplex.imp hleft.complex hright.complex)
  · cases hresult

/-- Types that anticipate scalars are scalars. -/
theorem exists_scalars_of_anticipates {narrows : List StorageType} {wides : List ScalarType}
    (h : List.Forall₂ StorageType.Anticipates narrows (wides.map .scalar)) :
    ∃ scalars, narrows.mapM (·.scalar?) = some scalars ∧
      List.Forall₂ ScalarType.Anticipates scalars wides := by
  induction wides generalizing narrows with
  | nil =>
    obtain rfl := List.forall₂_nil_right_iff.mp h
    exact ⟨[], rfl, .nil⟩
  | cons wide wides ih =>
    obtain ⟨narrow, rest, hnarrow, hrest, rfl⟩ := List.forall₂_cons_right_iff.mp h
    obtain ⟨scalar, rfl, hscalar⟩ := hnarrow.exists_scalar
    obtain ⟨scalars, hscalars, hanticipate⟩ := ih hrest
    refine ⟨scalar :: scalars, ?_, .cons hscalar hanticipate⟩
    rw [List.mapM_cons, hscalars]
    rfl

/-- A library function is resolved for types that anticipate others for which it is. -/
theorem exists_function?_of_anticipates {name : String} {narrows wides : List StorageType}
    {signature : Signature} (h : List.Forall₂ StorageType.Anticipates narrows wides)
    (hwide : function? name wides = some signature) :
    ∃ found, function? name narrows = some found ∧ found.result.Anticipates signature.result := by
  simp only [function?, bind, Option.bind_eq_some_iff, pure, Option.some.injEq] at hwide
  obtain ⟨family, hfamily, types, htypes, result, hresult, rfl⟩ := hwide
  rw [eq_map_of_mapM_scalar? htypes] at h
  obtain ⟨scalars, hscalars, hanticipate⟩ := exists_scalars_of_anticipates h
  obtain ⟨found, hfound, hanticipates⟩ := Family.exists_resultType_of_anticipates hanticipate hresult
  refine ⟨⟨name ++ if found = .float32 && family.marksSingle then "f" else "", narrows, .scalar found⟩, ?_,
    .scalar hanticipates⟩
  simp [function?, hfamily, hscalars, hfound]

end MathLibrary

end StorageTyping
