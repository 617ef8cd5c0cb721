import StorageTyping.Proofs.Joins

/-!
# Absorption by joins

A type absorbs another if the join of the two is the type itself. A join absorbs its operands, apart
from an `int32` that is joined in single precision with a complex number
(`ScalarType.absorbs_or_of_joinAll`).

When one more operand is added, the new join should absorb the old one. It need not: the precision that
an `int32` asks for falls as soon as a `float32` stands beside it, and a floating-point type may hold
integers of both signs without holding the wider signed type that they are joined to.
`StorageType.absorbs_join_concat_iff` says that nothing else goes wrong.
-/

namespace StorageTyping

namespace ScalarType

/-- Whether the join with a type is the other type. -/
def Absorbs (wide narrow : ScalarType) : Prop := joinAll [narrow, wide] = some wide

instance (wide narrow : ScalarType) : Decidable (wide.Absorbs narrow) :=
  inferInstanceAs (Decidable (joinAll [narrow, wide] = some wide))

/-- Among the signed and among the unsigned types a wider one absorbs a narrower one. -/
theorem absorbs_of_bits_le {wide narrow : ScalarType} (hinteger : narrow.isInteger = true)
    (hcategory : narrow.category = wide.category) (hbits : narrow.bits ≤ wide.bits) :
    wide.Absorbs narrow := by
  revert hinteger hcategory hbits
  cases narrow <;> cases wide <;> decide

/-- The join of a signed and an unsigned type absorbs all signed types up to the one and all unsigned
types up to the other. -/
theorem joinMixedSign_absorbs {signed unsigned type : ScalarType} (hsigned : signed.category = .signed)
    (hunsigned : unsigned.category = .unsigned)
    (htype : type.category = .signed ∧ type.bits ≤ signed.bits ∨
      type.category = .unsigned ∧ type.bits ≤ unsigned.bits) :
    (joinMixedSign signed unsigned).Absorbs type := by
  revert htype
  rcases category_eq_signed_iff.mp hsigned with rfl | rfl | rfl | rfl <;>
    rcases category_eq_unsigned_iff.mp hunsigned with rfl | rfl | rfl | rfl <;>
      cases type <;> decide

/-- A part as wide as an operand asks for gives a type that absorbs it, unless single precision is all
that it asks for and the type is complex. -/
theorem ofPart_absorbs {type part : ScalarType} {single complex : Bool} (hfloat : part.category = .float)
    (hbits : min (floatBits single type) 64 ≤ part.bits)
    (hcomplex : type.isComplex = true → complex = true) :
    (ofPart complex part).Absorbs type ∨ type = int32 ∧ single = true ∧ complex = true := by
  revert hbits hcomplex
  rcases category_eq_float_iff.mp hfloat with rfl | rfl | rfl <;>
    cases type <;> cases single <;> cases complex <;> decide

section Operands

variable {types : List ScalarType} {type joined : ScalarType}

/-- A join absorbs its operands, unless one is an `int32` and there are a `float32` and a complex type. -/
theorem absorbs_or_of_joinAll (hmem : type ∈ types) (h : joinAll types = some joined) :
    joined.Absorbs type ∨ type = int32 ∧ float32 ∈ types ∧ types.any isComplex = true := by
  unfold joinAll at h
  split at h
  · rename_i hall
    have hinteger := List.all_eq_true.mp hall type hmem
    rcases (joinsIntegers_of_eq_some h).le_or_mixed hmem hinteger with
      ⟨hcategory, hbits⟩ | ⟨signed, unsigned, hsigned, hunsigned, htype, rfl⟩
    · exact Or.inl (absorbs_of_bits_le hinteger hcategory hbits)
    · exact Or.inl (joinMixedSign_absorbs hsigned hunsigned htype)
  · cases h
    obtain ⟨part, hfloat, hjoin, hbits⟩ := exists_part_of_joinReals types
    have hcomplex : type.isComplex = true → types.any isComplex = true := fun htype =>
      List.any_eq_true.mpr ⟨type, hmem, htype⟩
    rw [hjoin]
    simpa using ofPart_absorbs hfloat (hbits type hmem) hcomplex

end Operands

/-- The ways in which a join may not be absorbed by the join with one more operand. -/
inductive Narrows (types : List ScalarType) (type before after : ScalarType) : Prop
  /-- The first `float32` brings the precision of an `int32` down from double to single. -/
  | toSinglePrecision (hint32 : int32 ∈ types) (hreal : types.all isInteger = false)
      (hnew : float32 ∉ types) (htype : type = float32) (hafter : after = float32 ∨ after = complex64)
  /-- Integers of both signs are joined to a signed type wider than each, which the new join is too narrow
  to hold. -/
  | belowSignedJoin (hnew : before ∉ types)
      (hjoins : before = int16 ∧ after = float16 ∨ before = int32 ∧ after = complex64)

/-- A type that absorbs a signed and an unsigned one absorbs their join, with two exceptions. -/
theorem absorbs_joinMixedSign {signed unsigned after : ScalarType} (hsigned : signed.category = .signed)
    (hunsigned : unsigned.category = .unsigned) (hafterSigned : after.Absorbs signed)
    (hafterUnsigned : after.Absorbs unsigned) :
    after.Absorbs (joinMixedSign signed unsigned) ∨
      joinMixedSign signed unsigned = int16 ∧ after = float16 ∨
        joinMixedSign signed unsigned = int32 ∧ after = complex64 := by
  revert hafterSigned hafterUnsigned
  rcases category_eq_signed_iff.mp hsigned with rfl | rfl | rfl | rfl <;>
    rcases category_eq_unsigned_iff.mp hunsigned with rfl | rfl | rfl | rfl <;>
      cases after <;> decide

/-- A wider part gives a type that absorbs what a narrower one gives. -/
theorem ofPart_absorbs_ofPart {part part' : ScalarType} {complex complex' : Bool}
    (hfloat : part.category = .float) (hfloat' : part'.category = .float) (hbits : part.bits ≤ part'.bits)
    (hcomplex : complex = true → complex' = true) :
    (ofPart complex' part').Absorbs (ofPart complex part) := by
  revert hbits hcomplex
  rcases category_eq_float_iff.mp hfloat with rfl | rfl | rfl <;>
    rcases category_eq_float_iff.mp hfloat' with rfl | rfl | rfl <;>
      cases complex <;> cases complex' <;> decide

theorem floatOfWidth_bits (width : Nat) :
    (floatOfWidth width).bits = if width ≤ 16 then 16 else if width ≤ 32 then 32 else 64 := by
  unfold floatOfWidth
  split
  · rfl
  · split <;> rfl

/-- A greater width gives a wider floating-point type. -/
theorem floatOfWidth_bits_mono {width width' : Nat} (h : width ≤ width') :
    (floatOfWidth width).bits ≤ (floatOfWidth width').bits := by
  rw [floatOfWidth_bits, floatOfWidth_bits]
  grind

/-- Only an `int32` may ask for less than before, when a `float32` comes to stand beside it. -/
theorem floatBits_le_or (type : ScalarType) (single single' : Bool) :
    floatBits single type ≤ floatBits single' type ∨
      type = int32 ∧ single = false ∧ single' = true := by
  cases type <;> cases single <;> cases single' <;> decide

section OneMore

variable {types : List ScalarType} {type before after : ScalarType}

/-- If no operand asks for less than before, a join of real and complex types absorbs the join of some of
its operands. -/
theorem joinReals_absorbs_joinReals {few many : List ScalarType} (hmem : ∀ type ∈ few, type ∈ many)
    (hbits : ∀ type ∈ few,
      floatBits (few.contains float32) type ≤ floatBits (many.contains float32) type) :
    (joinReals many).Absorbs (joinReals few) := by
  have hwidth : greatestWidth (floatBits (few.contains float32)) few ≤
      greatestWidth (floatBits (many.contains float32)) many :=
    greatestWidth_le_iff.mpr fun type htype =>
      Nat.le_trans (hbits type htype) (le_greatestWidth (hmem type htype))
  have hcomplex : few.any isComplex = true → many.any isComplex = true := by
    simp only [List.any_eq_true]
    exact fun ⟨type, htype, h⟩ => ⟨type, hmem type htype, h⟩
  exact ofPart_absorbs_ofPart (floatOfWidth_spec (Nat.le_refl _)).1 (floatOfWidth_spec (Nat.le_refl _)).1
    (floatOfWidth_bits_mono hwidth) hcomplex

/-- A join of real and complex types is absorbed by the join with one more operand, unless the precision
of an `int32` is brought down. -/
theorem absorbs_or_narrows_joinReals (hreal : types.all isInteger = false) :
    (joinReals (types ++ [type])).Absorbs (joinReals types) ∨
      Narrows types type (joinReals types) (joinReals (types ++ [type])) := by
  have hmem : ∀ other ∈ types, other ∈ types ++ [type] := fun _ => List.mem_append_left _
  by_cases hbits : ∀ other ∈ types,
      floatBits (types.contains float32) other ≤ floatBits ((types ++ [type]).contains float32) other
  · exact Or.inl (joinReals_absorbs_joinReals hmem hbits)
  · obtain ⟨other, hother, hless⟩ : ∃ other ∈ types, ¬ floatBits (types.contains float32) other ≤
        floatBits ((types ++ [type]).contains float32) other := by
      simpa using hbits
    obtain ⟨rfl, hbefore, hafter⟩ := (floatBits_le_or _ _ _).resolve_left hless
    have hnew : float32 ∉ types := by simpa using hbefore
    have htype : type = float32 := by simpa [hnew, eq_comm] using hafter
    obtain ⟨part, hfloat, hjoin, -⟩ := exists_part_of_joinReals types
    obtain ⟨part', hfloat', hjoin', hwidth'⟩ := exists_part_of_joinReals (types ++ [type])
    have hsingle := hwidth' float32 (by simp [htype])
    rw [hjoin, hjoin']
    by_cases hdouble : part' = float64
    · refine Or.inl (ofPart_absorbs_ofPart hfloat hfloat' ?_ fun hcomplex => ?_)
      · rw [hdouble]
        revert hfloat
        cases part <;> decide
      · simp [hcomplex]
    · refine Or.inr (.toSinglePrecision hother hreal hnew htype ?_)
      revert hfloat' hsingle hdouble
      cases part' <;> cases (types ++ [type]).contains float32 <;>
        cases (types ++ [type]).any isComplex <;> decide

/-- A join of integers is absorbed by the join with one more operand, unless it is a signed type that none
of them has and the new join is too narrow for it. -/
theorem absorbs_or_narrows_joinIntegers (hintegers : types.all isInteger = true)
    (hbefore : joinIntegers types = some before) (hafter : joinAll (types ++ [type]) = some after) :
    after.Absorbs before ∨ Narrows types type before after := by
  have habsorbs : ∀ other ∈ types, after.Absorbs other := by
    intro other hother
    rcases absorbs_or_of_joinAll (List.mem_append_left _ hother) hafter with h | ⟨-, hsingle, hcomplex⟩
    · exact h
    · -- one operand cannot be both the `float32` and the complex type
      have hnot : ∀ other ∈ types, other ≠ float32 ∧ other.isComplex = false := by
        intro other hother
        have hinteger := List.all_eq_true.mp hintegers other hother
        revert hinteger
        cases other <;> decide
      have htype : type = float32 := by
        simpa [eq_comm] using (List.mem_append.mp hsingle).resolve_left fun h => (hnot _ h).1 rfl
      obtain ⟨other, hother, hcomplex⟩ := List.any_eq_true.mp hcomplex
      rcases List.mem_append.mp hother with hother | hother
      · cases (hnot other hother).2.symm.trans hcomplex
      · rw [List.mem_singleton.mp hother, htype] at hcomplex
        contradiction
  by_cases hmem : before ∈ types
  · exact Or.inl (habsorbs before hmem)
  · cases joinsIntegers_of_eq_some hbefore with
    | signed hwidest => exact absurd hwidest.mem hmem
    | unsigned hwidest => exact absurd hwidest.mem hmem
    | mixed hsigned hunsigned =>
      exact (absorbs_joinMixedSign hsigned.category_eq hunsigned.category_eq (habsorbs _ hsigned.mem)
        (habsorbs _ hunsigned.mem)).imp_right (.belowSignedJoin hmem)

/-- A join is absorbed by the join with one more operand, with the two exceptions. -/
theorem absorbs_or_narrows (hbefore : joinAll types = some before)
    (hafter : joinAll (types ++ [type]) = some after) :
    after.Absorbs before ∨ Narrows types type before after := by
  by_cases hintegers : types.all isInteger = true
  · rw [joinAll, if_pos hintegers] at hbefore
    exact absorbs_or_narrows_joinIntegers hintegers hbefore hafter
  · have hmore : ¬ (types ++ [type]).all isInteger = true := by
      rw [List.all_append, Bool.and_eq_true]
      exact fun h => hintegers h.1
    rw [joinAll, if_neg hintegers] at hbefore
    rw [joinAll, if_neg hmore] at hafter
    cases hbefore
    cases hafter
    exact absorbs_or_narrows_joinReals (by simpa using hintegers)

/-- In both exceptions the join is not absorbed. -/
theorem Narrows.not_absorbs (h : Narrows types type before after) (hbefore : joinAll types = some before) :
    ¬ after.Absorbs before := by
  cases h with
  | toSinglePrecision hint32 hreal hnew htype hafter =>
    rw [joinAll, if_neg (by simp [hreal])] at hbefore
    cases hbefore
    obtain ⟨part, hfloat, hjoin, hwidth⟩ := exists_part_of_joinReals types
    have hdouble := hwidth int32 hint32
    rw [show types.contains float32 = false by simpa using hnew] at hdouble
    rw [hjoin]
    revert hfloat hdouble
    rcases hafter with rfl | rfl <;> cases part <;> cases types.any isComplex <;> decide
  | belowSignedJoin hnew hjoins =>
    rcases hjoins with ⟨rfl, rfl⟩ | ⟨rfl, rfl⟩ <;> decide

end OneMore

end ScalarType

/-- When scalars are joined with one more, the new join absorbs the old one, unless a first `float32` brings
the precision of an `int32` down or the new join is too narrow for the signed type that integers of both
signs were joined to. -/
theorem StorageType.absorbs_join_concat_iff {types : List ScalarType} {type : ScalarType}
    {before after : StorageType} (hbefore : joinAll (types.map .scalar) = .ok before)
    (hafter : joinAll ((types ++ [type]).map .scalar) = .ok after) :
    ∃ narrow wide : ScalarType, before = .scalar narrow ∧ after = .scalar wide ∧
      (joinAll [before, after] = .ok after ↔ ¬ ScalarType.Narrows types type narrow wide) := by
  rw [joinAll_scalars] at hbefore hafter
  cases hnarrow : ScalarType.joinAll types with
  | none => simp [hnarrow] at hbefore
  | some narrow =>
    cases hwide : ScalarType.joinAll (types ++ [type]) with
    | none => simp [hwide] at hafter
    | some wide =>
      simp only [hnarrow, Except.ok.injEq] at hbefore
      simp only [hwide, Except.ok.injEq] at hafter
      subst hbefore hafter
      have hpair : joinAll [.scalar narrow, .scalar wide] = .ok (.scalar wide) ↔ wide.Absorbs narrow := by
        rw [show [StorageType.scalar narrow, .scalar wide] = [narrow, wide].map .scalar from rfl,
          joinAll_scalars, ScalarType.Absorbs]
        cases ScalarType.joinAll [narrow, wide] <;> simp
      refine ⟨narrow, wide, rfl, rfl, hpair.trans ⟨fun habsorbs hnarrows => ?_, fun hwidens => ?_⟩⟩
      · exact hnarrows.not_absorbs hnarrow habsorbs
      · exact (ScalarType.absorbs_or_narrows hnarrow hwide).resolve_right hwidens

/-- The join of a signed and an unsigned type of 8 bits is absorbed when single precision joins them, and
not when half precision does. -/
theorem StorageType.absorbs_join_concat_iff_int8 :
    joinAll [.scalar .int8, .scalar .uint8] = .ok (.scalar .int16) ∧
      joinAll [.scalar .int8, .scalar .uint8, .scalar .float32] = .ok (.scalar .float32) ∧
      joinAll [.scalar .int16, .scalar .float32] = .ok (.scalar .float32) ∧
      joinAll [.scalar .int8, .scalar .uint8, .scalar .float16] = .ok (.scalar .float16) ∧
      joinAll [.scalar .int16, .scalar .float16] ≠ .ok (.scalar .float16) := by
  have hint16 : joinAll ([ScalarType.int8, .uint8].map .scalar) = .ok (.scalar .int16) := rfl
  have hsingle : joinAll (([ScalarType.int8, .uint8] ++ [ScalarType.float32]).map .scalar) =
      .ok (.scalar .float32) := rfl
  have hhalf : joinAll (([ScalarType.int8, .uint8] ++ [ScalarType.float16]).map .scalar) =
      .ok (.scalar .float16) := rfl
  obtain ⟨_, _, hbefore, hafter, habsorbs⟩ := absorbs_join_concat_iff hint16 hsingle
  obtain ⟨_, _, hbefore', hafter', habsorbs'⟩ := absorbs_join_concat_iff hint16 hhalf
  cases hbefore
  cases hafter
  cases hbefore'
  cases hafter'
  refine ⟨hint16, hsingle, habsorbs.mpr fun hnarrows => ?_, hhalf, fun h => habsorbs'.mp h ?_⟩
  · cases hnarrows with
    | toSinglePrecision hint32 => exact absurd hint32 (by decide)
    | belowSignedJoin _ hjoins => exact absurd hjoins (by decide)
  · exact .belowSignedJoin (by decide) (Or.inl ⟨rfl, rfl⟩)

/-- A join need not be absorbed when one more operand is added. -/
theorem StorageType.not_absorbs_join_concat :
    ¬ ∀ (types : List ScalarType) (type : ScalarType) (before after : StorageType), types ≠ [] →
      joinAll (types.map .scalar) = .ok before → joinAll ((types ++ [type]).map .scalar) = .ok after →
        joinAll [before, after] = .ok after := by
  intro h
  have habsorbs := h [.int32, .float16] .float32 (.scalar .float64) (.scalar .float32) (by decide) rfl rfl
  cases habsorbs

end StorageTyping
