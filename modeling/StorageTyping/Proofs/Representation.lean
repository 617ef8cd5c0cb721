import StorageTyping.Proofs.Binary.Patterns
import StorageTyping.Proofs.Ranges

/-!
# Integers in scalar types

`ScalarType.holds` compares an integer with the bounds of a range. Whether the integer is a value of the type
is another question: for an integer type whether it lies between the least and the greatest value, and
otherwise whether some bit pattern of the format stands for it (`ScalarType.Represents`).

An integer has a pattern if no more bits than the precision are left of it once trailing zeros are taken off,
and the exponents reach that far (`ScalarType.represents_iff`). Two to the precision and all integers
below are of this kind, and the next one is not. Hence a type holds an integer exactly if it represents
every integer from zero up to it (`ScalarType.holds_iff_represents_between`); integers beyond the first gap
may be represented all the same, and are not held.
-/

namespace StorageTyping

namespace ScalarType

/-- An integer is a value of a type, in the case of a complex type one with the imaginary part zero. -/
def Represents (type : ScalarType) (value : Int) : Prop :=
  match type.format? with
  | some format => ∃ pattern,
      (format.decode pattern).sameValue (.finite (decide (value < 0)) value.natAbs 0) = true
  | none => type.lowest ≤ value ∧ value ≤ type.highest

variable {type : ScalarType} {value : Int}

/-- An integer type holds what it represents. -/
theorem holds_iff_represents_of_isInteger (hinteger : type.isInteger = true) (value : Int) :
    type.holds value = true ↔ type.Represents value := by
  have hformat := (format?_eq_none_iff type).mpr hinteger
  rw [holds_iff_of_isInteger hinteger]
  simp only [Represents, hformat]

section Format

variable {format : BinaryFormat}

/-- The formats of the types have exponents for all places of their significands, and for one more. -/
theorem precision_le_bias (hformat : type.format? = some format) :
    0 < format.bias ∧ format.precision ≤ format.bias := by
  cases type <;> cases hformat <;> decide

theorem holds_iff_of_format (hformat : type.format? = some format) (value : Int) :
    type.holds value = true ↔ value.natAbs ≤ 2 ^ format.precision := by
  simp only [holds, hformat, Nat.pow_eq, decide_eq_true_eq]

/-- An integer is represented exactly if it is a significand with zeros behind, as many as the exponents
allow. -/
theorem represents_iff (hformat : type.format? = some format) (value : Int) :
    type.Represents value ↔ ∃ units shift : Nat, units < 2 ^ format.precision ∧
      shift ≤ format.greatestExponent ∧ value.natAbs = units * 2 ^ shift := by
  obtain ⟨hbias, hroom⟩ := precision_le_bias hformat
  have hplaces : format.leastExponent ≤ 0 ∧ 0 ≤ format.greatestExponent := by
    unfold BinaryFormat.precision at hroom
    unfold BinaryFormat.leastExponent BinaryFormat.greatestExponent
    omega
  simp only [Represents, hformat]
  constructor
  · rintro ⟨pattern, hsame⟩
    obtain ⟨units, place, hfits, hvalue⟩ := BinaryFormat.exists_fits_of_sameValue hbias hsame
    rw [zpow_zero, mul_one] at hvalue
    rcases le_total 0 place with hplace | hplace
    · obtain ⟨shift, rfl⟩ := Int.eq_ofNat_of_zero_le hplace
      exact ⟨units, shift, hfits.significand_lt, hfits.exponent_le, by exact_mod_cast hvalue.symm⟩
    · -- Digits after the point are zero, so the integer is smaller than the significand.
      obtain ⟨digits, hdigits⟩ := Int.eq_ofNat_of_zero_le (Int.neg_nonneg.mpr hplace)
      have hunits : units = value.natAbs * 2 ^ digits := by
        have hscale : (2 : ℚ) ^ place * 2 ^ digits = 1 := by
          rw [← zpow_natCast, ← hdigits, ← zpow_add₀ two_ne_zero, add_neg_cancel, zpow_zero]
        have hscaled : (units : ℚ) = value.natAbs * 2 ^ digits := by
          rw [← hvalue, mul_assoc, hscale, mul_one]
        exact_mod_cast hscaled
      have hle : value.natAbs ≤ units := hunits ▸ Nat.le_mul_of_pos_right _ (Nat.two_pow_pos digits)
      exact ⟨value.natAbs, 0, hle.trans_lt hfits.significand_lt, hplaces.2, (Nat.mul_one _).symm⟩
  · rintro ⟨units, shift, hunits, hshift, hvalue⟩
    have hfits : format.Fits units shift := ⟨hunits, by omega, hshift⟩
    have hmagnitude : (units : ℚ) * 2 ^ (shift : Int) = value.natAbs * 2 ^ (0 : Int) := by
      rw [hvalue, zpow_zero, mul_one, zpow_natCast]
      norm_cast
    obtain ⟨pattern, -, hsame⟩ : format.Has (.finite (decide (value < 0)) value.natAbs 0) :=
      (BinaryFormat.has_finite_iff hbias).mpr ⟨units, shift, hfits, hmagnitude⟩
    exact ⟨pattern, hsame⟩

/-- Two to the precision and all integers below it are represented. -/
theorem represents_of_natAbs_le (hformat : type.format? = some format)
    (h : value.natAbs ≤ 2 ^ format.precision) : type.Represents value := by
  obtain ⟨-, hroom⟩ := precision_le_bias hformat
  unfold BinaryFormat.precision at hroom
  rw [represents_iff hformat]
  rcases Nat.lt_or_eq_of_le h with hlt | heq
  · exact ⟨value.natAbs, 0, hlt, by unfold BinaryFormat.greatestExponent; omega, (Nat.mul_one _).symm⟩
  · exact ⟨2 ^ format.fractionBits, 1, Nat.pow_lt_pow_right (by decide) (Nat.lt_succ_self _),
      by unfold BinaryFormat.greatestExponent; omega, heq.trans (Nat.pow_succ ..)⟩

/-- The integer after two to the precision has too many significant bits. -/
theorem not_represents_of_natAbs_eq (hformat : type.format? = some format)
    (h : value.natAbs = 2 ^ format.precision + 1) : ¬ type.Represents value := by
  rw [represents_iff hformat]
  rintro ⟨units, shift, hunits, -, hvalue⟩
  cases shift with
  | zero => omega
  | succ shift =>
    have heven : 2 ∣ 2 ^ format.precision + 1 := by
      rw [← h, hvalue, Nat.pow_succ, ← Nat.mul_assoc]
      exact Nat.dvd_mul_left 2 _
    have hpower : 2 ∣ 2 ^ format.precision := Dvd.intro_left _ (Nat.pow_succ ..).symm
    omega

end Format

/-- Below the precision of the floating-point formats, what a type holds is what it represents. -/
theorem holds_iff_represents_of_lt (type : ScalarType) {value : Int} (h : value.natAbs < 2 ^ 11) :
    type.holds value = true ↔ type.Represents value := by
  cases hformat : type.format? with
  | none => exact holds_iff_represents_of_isInteger ((format?_eq_none_iff type).mp hformat) value
  | some format =>
    have hprecision : 2 ^ 11 ≤ 2 ^ format.precision := by cases type <;> cases hformat <;> decide
    have hle : value.natAbs ≤ 2 ^ format.precision := h.le.trans hprecision
    exact iff_of_true ((holds_iff_of_format hformat value).mpr hle) (represents_of_natAbs_le hformat hle)

/-- What a type holds is represented. -/
theorem represents_of_holds (h : type.holds value = true) : type.Represents value := by
  cases hformat : type.format? with
  | none => exact (holds_iff_represents_of_isInteger ((format?_eq_none_iff type).mp hformat) value).mp h
  | some format => exact represents_of_natAbs_le hformat ((holds_iff_of_format hformat value).mp h)

/-- Every type holds zero. -/
theorem holds_zero (type : ScalarType) : type.holds 0 = true := by
  cases type <;> decide

/-- What a type holds are the integers up to the first one that it does not represent: it holds an integer
exactly if it represents all from zero to this one. That is not whether it represents the integer itself. A
floating-point type also represents integers beyond two to its precision, those that are a
significand with zeros behind, and of these it holds none; on all other integers the two agree. -/
theorem holds_iff_represents_between (type : ScalarType) (value : Int) :
    (type.holds value = true ↔
        ∀ middle, min 0 value ≤ middle → middle ≤ max 0 value → type.Represents middle) ∧
      ((type.holds value = true ↔ type.Represents value) ↔
        ¬ ∃ format, type.format? = some format ∧ 2 ^ format.precision < value.natAbs ∧
          ∃ units shift : Nat, units < 2 ^ format.precision ∧ shift ≤ format.greatestExponent ∧
            value.natAbs = units * 2 ^ shift) := by
  constructor
  · constructor
    · intro hholds middle hlow hhigh
      rcases le_total 0 value with hsign | hsign
      · exact represents_of_holds (holds_of_between (holds_zero type) hholds (by omega) (by omega))
      · exact represents_of_holds (holds_of_between hholds (holds_zero type) (by omega) (by omega))
    · intro hbetween
      cases hformat : type.format? with
      | none =>
        have hinteger := (format?_eq_none_iff type).mp hformat
        exact (holds_iff_represents_of_isInteger hinteger value).mpr (hbetween value (by omega) (by omega))
      | some format =>
        rw [holds_iff_of_format hformat]
        -- Otherwise the integer after two to the precision lies on the way, on the side of the sign.
        by_contra hbeyond
        have hgap (middle : Int) : middle.natAbs = 2 ^ format.precision + 1 → ¬ type.Represents middle :=
          not_represents_of_natAbs_eq hformat
        generalize 2 ^ format.precision = bound at hbeyond hgap
        rcases le_total 0 value with hsign | hsign
        · exact hgap (bound + 1) (by omega) (hbetween _ (by omega) (by omega))
        · exact hgap (-(bound + 1)) (by omega) (hbetween _ (by omega) (by omega))
  · cases hformat : type.format? with
    | none =>
      have hinteger := (format?_eq_none_iff type).mp hformat
      exact iff_of_true (holds_iff_represents_of_isInteger hinteger value) (by simp)
    | some format =>
      simp only [Option.some.injEq, exists_eq_left', ← represents_iff hformat]
      have hsound : type.holds value = true → type.Represents value := represents_of_holds
      rw [holds_iff_of_format hformat] at hsound ⊢
      constructor
      · rintro hexact ⟨hbeyond, hrepresents⟩
        exact absurd (hexact.mpr hrepresents) (Nat.not_le.mpr hbeyond)
      · intro hnone
        exact ⟨hsound, fun hrepresents => Nat.le_of_not_lt fun hbeyond => hnone ⟨hbeyond, hrepresents⟩⟩

/-- The integer 2050 is twice 1025, which has eleven bits, and half precision represents it without holding
it. -/
theorem not_holds_iff_represents_float16 :
    float16.Represents 2050 ∧ ¬ (float16.holds 2050 = true ↔ float16.Represents 2050) := by
  have hrepresents : float16.Represents 2050 := ⟨(0x6801#16 : BitVec BinaryFormat.half.width), by decide⟩
  exact ⟨hrepresents, fun h => absurd (h.mpr hrepresents) (by decide)⟩

end ScalarType

end StorageTyping
