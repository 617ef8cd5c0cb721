import StorageTyping.Proofs.Joins

/-!
# Integer ranges of joins

A join should hold whatever its integer operands hold. It does, with two exceptions: a 64-bit integer
does not fit a type that is no integer type, and an `int32` does not fit the single precision that it
is content with next to a `float32`. `StorageType.joinAll_covers_iff` says that there are no others, for
operands of any number, and that each exception does lose a value.

A type holds an interval of integers, so it holds all values of an integer type if it holds the least
and the greatest of them (`ScalarType.covers_iff`).
-/

namespace StorageTyping

namespace ScalarType

/-- The least value of an integer type. -/
def lowest (type : ScalarType) : Int :=
  if type.category = .signed then -(Nat.pow 2 (type.bits - 1) : Int) else 0

/-- The greatest value of an integer type. -/
def highest (type : ScalarType) : Int :=
  if type.category = .signed then (Nat.pow 2 (type.bits - 1) : Int) - 1 else (Nat.pow 2 type.bits : Int) - 1

/-- Whether a type holds every value of an integer type. -/
def Covers (wide narrow : ScalarType) : Prop :=
  ∀ value, narrow.lowest ≤ value → value ≤ narrow.highest → wide.holds value = true

/-- A type holds every integer between two that it holds. -/
theorem holds_of_between {type : ScalarType} {low value high : Int} (hlow : type.holds low = true)
    (hhigh : type.holds high = true) (hle : low ≤ value) (hge : value ≤ high) :
    type.holds value = true := by
  unfold holds at hlow hhigh ⊢
  cases hformat : type.format? with
  | some format =>
    simp only [hformat, decide_eq_true_eq] at hlow hhigh ⊢
    omega
  | none =>
    by_cases hsigned : type.category = .signed
    · simp only [hformat, hsigned, if_true, Bool.and_eq_true, decide_eq_true_eq] at hlow hhigh ⊢
      omega
    · simp only [hformat, hsigned, if_false, Bool.and_eq_true, decide_eq_true_eq] at hlow hhigh ⊢
      omega

/-- An integer type holds the integers from its least to its greatest value, and no others. -/
theorem holds_iff_of_isInteger {type : ScalarType} (hinteger : type.isInteger = true) (value : Int) :
    type.holds value = true ↔ type.lowest ≤ value ∧ value ≤ type.highest := by
  have hpow : Nat.pow 2 type.bits = 2 * Nat.pow 2 (type.bits - 1) := by cases type <;> rfl
  have hformat := (format?_eq_none_iff type).mpr hinteger
  unfold holds lowest highest
  rw [hpow]
  by_cases hsigned : type.category = .signed
  · simp only [hformat, hsigned, if_true, Bool.and_eq_true, decide_eq_true_eq, Nat.pow_eq]
    omega
  · simp only [hformat, hsigned, if_false, Bool.and_eq_true, decide_eq_true_eq, Nat.pow_eq]
    omega

/-- To hold every value of a type is to hold the least and the greatest one. -/
theorem covers_iff {wide narrow : ScalarType} :
    wide.Covers narrow ↔ wide.holds narrow.lowest = true ∧ wide.holds narrow.highest = true := by
  have hle : narrow.lowest ≤ narrow.highest := by cases narrow <;> decide
  constructor
  · intro h
    exact ⟨h _ (Int.le_refl _) hle, h _ hle (Int.le_refl _)⟩
  · intro h value hlow hhigh
    exact holds_of_between h.1 h.2 hlow hhigh

instance (wide narrow : ScalarType) : Decidable (wide.Covers narrow) :=
  decidable_of_iff _ covers_iff.symm

theorem Covers.trans {wide middle narrow : ScalarType} (hinteger : middle.isInteger = true)
    (hwide : wide.Covers middle) (hnarrow : middle.Covers narrow) : wide.Covers narrow := by
  intro value hlow hhigh
  obtain ⟨hlow', hhigh'⟩ := (holds_iff_of_isInteger hinteger value).mp (hnarrow value hlow hhigh)
  exact hwide value hlow' hhigh'

/-- Among the signed and among the unsigned types a wider one holds what a narrower one holds. -/
theorem covers_of_bits_le {wide narrow : ScalarType} (hinteger : narrow.isInteger = true)
    (hcategory : narrow.category = wide.category) (hbits : narrow.bits ≤ wide.bits) :
    wide.Covers narrow := by
  revert hinteger hcategory hbits
  cases narrow <;> cases wide <;> decide

/-- The join of a signed and an unsigned type holds both of them, unless there is no wider integer type. -/
theorem joinMixedSign_covers {signed unsigned : ScalarType} (hsigned : signed.category = .signed)
    (hunsigned : unsigned.category = .unsigned) :
    joinMixedSign signed unsigned = float64 ∨
      (joinMixedSign signed unsigned).Covers signed ∧ (joinMixedSign signed unsigned).Covers unsigned := by
  revert hsigned hunsigned
  cases signed <;> cases unsigned <;> decide

/-- Double precision holds every integer type of fewer than 64 bits. -/
theorem float64_covers {type : ScalarType} (hinteger : type.isInteger = true) (hbits : type.bits ≠ 64) :
    float64.Covers type := by
  revert hinteger hbits
  cases type <;> decide

/-- A part as wide as an integer asks for holds its values, unless 64 bits are not enough or single
precision is all that it asks for. -/
theorem ofPart_covers {type part : ScalarType} {single complex : Bool} (hfloat : part.category = .float)
    (hbits : min (floatBits single type) 64 ≤ part.bits) (hinteger : type.isInteger = true)
    (hnarrow : type.bits ≠ 64) :
    (ofPart complex part).Covers type ∨ type = int32 ∧ single = true ∧ part = float32 := by
  revert hbits hinteger hnarrow
  rcases category_eq_float_iff.mp hfloat with rfl | rfl | rfl <;>
    cases type <;> cases single <;> cases complex <;> decide

/-- The ways in which a join may fail to hold an integer operand. -/
inductive LosesRange (types : List ScalarType) (type joined : ScalarType) : Prop
  /-- No floating-point type holds all integers of 64 bits. -/
  | greatestWidth (hbits : type.bits = 64) (hjoined : joined.isInteger = false)
  /-- An `int32` is content with the precision of a `float32` beside it. -/
  | singlePrecision (htype : type = int32) (hsingle : float32 ∈ types)
      (hjoined : joined = float32 ∨ joined = complex64)

section Joins

variable {types : List ScalarType} {type joined : ScalarType}

/-- A join of integers holds its operands, except those of 64 bits. -/
theorem covers_or_of_joinIntegers (hmem : type ∈ types) (hinteger : type.isInteger = true)
    (h : joinIntegers types = some joined) :
    joined.Covers type ∨ type.bits = 64 ∧ joined.isInteger = false := by
  rcases (joinsIntegers_of_eq_some h).le_or_mixed hmem hinteger with
    ⟨hcategory, hbits⟩ | ⟨signed, unsigned, hsigned, hunsigned, htype, rfl⟩
  · exact Or.inl (covers_of_bits_le hinteger hcategory hbits)
  · rcases joinMixedSign_covers hsigned hunsigned with hjoin | ⟨hcoversSigned, hcoversUnsigned⟩
    · rw [hjoin]
      by_cases hwidth : type.bits = 64
      · exact Or.inr ⟨hwidth, rfl⟩
      · exact Or.inl (float64_covers hinteger hwidth)
    · rcases htype with ⟨hcategory, hbits⟩ | ⟨hcategory, hbits⟩
      · exact Or.inl (hcoversSigned.trans (by simp [isInteger, hsigned])
          (covers_of_bits_le hinteger (hcategory.trans hsigned.symm) hbits))
      · exact Or.inl (hcoversUnsigned.trans (by simp [isInteger, hunsigned])
          (covers_of_bits_le hinteger (hcategory.trans hunsigned.symm) hbits))

/-- A join of types not all of which are integers holds its integer operands, with the two exceptions. -/
theorem covers_or_losesRange_joinReals (hmem : type ∈ types) (hinteger : type.isInteger = true) :
    (joinReals types).Covers type ∨ LosesRange types type (joinReals types) := by
  obtain ⟨part, hfloat, hjoin, hbits⟩ := exists_part_of_joinReals types
  rw [hjoin]
  by_cases hwidth : type.bits = 64
  · refine Or.inr (.greatestWidth hwidth ?_)
    revert hfloat
    cases part <;> cases types.any isComplex <;> decide
  · rcases ofPart_covers hfloat (hbits type hmem) hinteger hwidth with hcovers | ⟨htype, hsingle, hpart⟩
    · exact Or.inl hcovers
    · refine Or.inr (.singlePrecision htype (by simpa using hsingle) ?_)
      rw [hpart]
      cases types.any isComplex <;> decide

/-- A join holds its integer operands, with the two exceptions. -/
theorem covers_or_losesRange (hmem : type ∈ types) (hinteger : type.isInteger = true)
    (h : joinAll types = some joined) : joined.Covers type ∨ LosesRange types type joined := by
  unfold joinAll at h
  split at h
  · exact (covers_or_of_joinIntegers hmem hinteger h).imp_right fun hloses =>
      .greatestWidth hloses.1 hloses.2
  · cases h
    exact covers_or_losesRange_joinReals hmem hinteger

/-- In both exceptions a value is lost. -/
theorem LosesRange.not_covers (h : LosesRange types type joined) (hinteger : type.isInteger = true) :
    ¬ joined.Covers type := by
  cases h with
  | greatestWidth hbits hjoined =>
    revert hbits hjoined hinteger
    cases type <;> cases joined <;> decide
  | singlePrecision htype hsingle hjoined =>
    subst htype
    rcases hjoined with rfl | rfl <;> decide

end Joins

end ScalarType

/-- The join of scalars holds every value of an integer operand, unless this has 64 bits and the join is
no integer type, or it is `int32` and joined with a `float32` in single precision. -/
theorem StorageType.joinAll_covers_iff {types : List ScalarType} {joined : StorageType}
    (h : joinAll (types.map .scalar) = .ok joined) {type : ScalarType} (hmem : type ∈ types)
    (hinteger : type.isInteger = true) :
    ∃ scalar : ScalarType, joined = .scalar scalar ∧
      ((∀ value, type.lowest ≤ value → value ≤ type.highest → scalar.holds value = true) ↔
        ¬ ScalarType.LosesRange types type scalar) := by
  rw [joinAll_scalars] at h
  cases hjoin : ScalarType.joinAll types with
  | none => simp [hjoin] at h
  | some scalar =>
    simp only [hjoin, Except.ok.injEq] at h
    refine ⟨scalar, h.symm, fun hcovers hloses => ?_, fun hkeeps => ?_⟩
    · exact hloses.not_covers hinteger hcovers
    · exact (ScalarType.covers_or_losesRange hmem hinteger hjoin).resolve_right hkeeps

/-- Next to a complex number an `int32` is joined in double precision, which holds it, and next to a
`float32` as well in single precision, which does not. -/
theorem StorageType.joinAll_covers_iff_int32 :
    joinAll [.scalar .int32, .scalar .complex64] = .ok (.scalar .complex128) ∧
      (∀ value, ScalarType.int32.lowest ≤ value → value ≤ ScalarType.int32.highest →
        ScalarType.complex128.holds value = true) ∧
      joinAll [.scalar .int32, .scalar .complex64, .scalar .float32] = .ok (.scalar .complex64) ∧
      ¬ ∀ value, ScalarType.int32.lowest ≤ value → value ≤ ScalarType.int32.highest →
        ScalarType.complex64.holds value = true := by
  have hdouble : joinAll ([ScalarType.int32, .complex64].map .scalar) = .ok (.scalar .complex128) := rfl
  have hsingle : joinAll ([ScalarType.int32, .complex64, .float32].map .scalar) =
      .ok (.scalar .complex64) := rfl
  obtain ⟨_, hscalar, hcovers⟩ := joinAll_covers_iff hdouble List.mem_cons_self rfl
  obtain ⟨_, hscalar', hcovers'⟩ := joinAll_covers_iff hsingle List.mem_cons_self rfl
  cases hscalar
  cases hscalar'
  refine ⟨hdouble, hcovers.mpr fun hloses => ?_, hsingle, fun h => ?_⟩
  · cases hloses with
    | greatestWidth hbits => exact absurd hbits (by decide)
    | singlePrecision _ hsingle => exact absurd hsingle (by decide)
  · exact hcovers'.mp h (.singlePrecision rfl (by decide) (Or.inr rfl))

end StorageTyping
