import Mathlib.Algebra.Order.Field.Power
import Mathlib.Algebra.Order.Ring.Rat
import Mathlib.Tactic.Positivity
import StorageTyping.Inference.Basic
import StorageTyping.Proofs.Binary.Patterns

/-!
# Narrowing without loss

Rounding to a format and comparing with the original is a test of whether the format has the original among
its data (`BinaryFormat.holdsExactly_iff_has`). In one direction a rounded quotient is a datum of the format,
also after a carry (`BinaryFormat.fits_of_roundRatio`). In the other one a quotient that the format has is a
whole number of units of the place to which it is rounded, and rounding leaves whole numbers alone
(`BinaryFormat.roundRatio_of_fits`).

For complex literals without a size this means that single precision is guessed exactly if nothing is lost
by it (`Scope.infer_complex_eq`).
-/

namespace StorageTyping

/-- A power of two of either sign as a quotient of whole numbers. -/
theorem two_zpow_eq_div (exponent : Int) :
    (2 : ℚ) ^ exponent = (2 ^ exponent.toNat : Nat) / (2 ^ (-exponent).toNat : Nat) := by
  have hsplit : exponent = (exponent.toNat : Int) - ((-exponent).toNat : Int) := by omega
  push_cast
  rw [← zpow_natCast, ← zpow_natCast, ← zpow_sub₀ two_ne_zero, ← hsplit]

/-- A rounded quotient is at most one above the whole part. -/
theorem roundDivEven_le (num den : Nat) : roundDivEven num den ≤ num / den + 1 := by
  unfold roundDivEven
  dsimp only
  split
  · exact Nat.le_succ _
  · split
    · exact le_refl _
    · split
      · exact Nat.le_succ _
      · exact le_refl _

section Logarithm

variable {den : Nat}

/-- The test that corrects the estimate of a logarithm is a comparison of the quotient with a power of two. -/
theorem two_zpow_mul_le_iff (estimate : Int) (num den : Nat) :
    (2 : ℚ) ^ estimate * den ≤ num ↔ den * 2 ^ estimate.toNat ≤ num * 2 ^ (-estimate).toNat := by
  have hpos : (0 : ℚ) < (2 ^ (-estimate).toNat : Nat) := by positivity
  rw [two_zpow_eq_div, div_mul_eq_mul_div, div_le_iff₀ hpos, mul_comm _ (den : ℚ)]
  norm_cast

/-- A quotient lies below the power of two after its logarithm and, if it is positive, not below the one
before. -/
theorem floorLogTwo_spec (num : Nat) (hden : 0 < den) :
    (num : ℚ) < 2 ^ (floorLogTwo num den + 1) * den ∧
      (0 < num → (2 : ℚ) ^ floorLogTwo num den * den ≤ num) := by
  have hlow : (2 : ℚ) ^ (den.log2 : Int) ≤ den := by exact_mod_cast Nat.log2_self_le hden.ne'
  have hhigh : (den : ℚ) ≤ 2 ^ ((den.log2 : Int) + 1) := by exact_mod_cast Nat.lt_log2_self.le
  unfold floorLogTwo
  simp only [Nat.pow_eq, ← two_zpow_mul_le_iff]
  split
  · rename_i hestimate
    refine ⟨?_, fun _ => hestimate⟩
    calc (num : ℚ) < 2 ^ ((num.log2 : Int) + 1) := by exact_mod_cast Nat.lt_log2_self
      _ = 2 ^ ((num.log2 : Int) - den.log2 + 1) * 2 ^ (den.log2 : Int) := by
        rw [← zpow_add₀ two_ne_zero]
        congr 1
        omega
      _ ≤ 2 ^ ((num.log2 : Int) - den.log2 + 1) * den := mul_le_mul_of_nonneg_left hlow (by positivity)
  · rename_i hestimate
    rw [sub_add_cancel]
    refine ⟨not_le.mp hestimate, fun hpos => ?_⟩
    calc (2 : ℚ) ^ ((num.log2 : Int) - den.log2 - 1) * den
        ≤ 2 ^ ((num.log2 : Int) - den.log2 - 1) * 2 ^ ((den.log2 : Int) + 1) :=
          mul_le_mul_of_nonneg_left hhigh (by positivity)
      _ = 2 ^ (num.log2 : Int) := by
        rw [← zpow_add₀ two_ne_zero]
        congr 1
        omega
      _ ≤ num := by exact_mod_cast Nat.log2_self_le hpos.ne'

/-- The logarithm of zero is set below that of one. -/
theorem floorLogTwo_zero_lt (hden : 0 < den) : floorLogTwo 0 den < 0 := by
  have hlog : Nat.log2 0 = 0 := by decide
  have hpos : ¬ den * 2 ^ ((0 : Int) - den.log2).toNat ≤ 0 :=
    (Nat.mul_pos hden (Nat.two_pow_pos _)).not_ge
  simp only [floorLogTwo, hlog, Nat.zero_mul, Nat.pow_eq, Nat.cast_zero, if_neg hpos]
  omega

end Logarithm

namespace BinaryFormat

variable {format : BinaryFormat}

/-- The weight of the last place to which a quotient is rounded, as an exponent of two. -/
def lastPlace (format : BinaryFormat) (num den : Nat) : Int :=
  max (floorLogTwo num den - format.fractionBits) format.leastExponent

/-- A quotient in units of the last place, rounded to a whole number of them. -/
def roundedUnits (format : BinaryFormat) (num den : Nat) : Nat :=
  roundDivEven (num * 2 ^ (-format.lastPlace num den).toNat) (den * 2 ^ (format.lastPlace num den).toNat)

/-- The datum of a number of units of some place, after the carry of a significand that is a bit too long. -/
def ofUnits (format : BinaryFormat) (negative : Bool) (units : Nat) (place : Int) : Datum :=
  let carried := units = 2 ^ format.precision
  let exponent := if carried then place + 1 else place
  let significand := if carried then 2 ^ format.fractionBits else units
  if format.greatestExponent < exponent then .infinite negative else .finite negative significand exponent

theorem roundRatio_eq (negative : Bool) (num den : Nat) :
    format.roundRatio negative num den =
      format.ofUnits negative (format.roundedUnits num den) (format.lastPlace num den) := rfl

section Units

variable {negative negative' : Bool} {units significand : Nat} {place exponent : Int}

theorem ofUnits_of_lt (hunits : units < 2 ^ format.precision) (hplace : place ≤ format.greatestExponent) :
    format.ofUnits negative units place = .finite negative units place := by
  simp [ofUnits, hunits.ne, hplace.not_gt]

/-- No more units than the precision allows give a datum of the format, if they give a finite one. -/
theorem fits_of_ofUnits (hunits : units ≤ 2 ^ format.precision) (hplace : format.leastExponent ≤ place)
    (h : format.ofUnits negative units place = .finite negative' significand exponent) :
    format.Fits significand exponent := by
  have hprecision : 2 ^ format.fractionBits < 2 ^ format.precision :=
    Nat.pow_lt_pow_right (by decide) (Nat.lt_succ_self _)
  unfold ofUnits at h
  dsimp only at h
  by_cases hcarried : units = 2 ^ format.precision
  · simp only [hcarried, if_true] at h
    split at h
    · cases h
    · cases h
      exact ⟨hprecision, by omega, by omega⟩
  · simp only [hcarried, if_false] at h
    split at h
    · cases h
    · cases h
      exact ⟨by omega, hplace, by omega⟩

/-- What is divided for rounding is the quotient in units of a place. -/
theorem num_eq_iff (num den units : Nat) (place : Int) :
    num * 2 ^ (-place).toNat = units * (den * 2 ^ place.toNat) ↔ (num : ℚ) = units * 2 ^ place * den := by
  have hpos : (0 : ℚ) < (2 ^ (-place).toNat : Nat) := by positivity
  rw [two_zpow_eq_div, ← mul_div_assoc, div_mul_eq_mul_div, eq_div_iff hpos.ne', mul_right_comm, mul_assoc]
  norm_cast

theorem num_lt_iff (num den units : Nat) (place : Int) :
    num * 2 ^ (-place).toNat < units * (den * 2 ^ place.toNat) ↔ (num : ℚ) < units * 2 ^ place * den := by
  have hpos : (0 : ℚ) < (2 ^ (-place).toNat : Nat) := by positivity
  rw [two_zpow_eq_div, ← mul_div_assoc, div_mul_eq_mul_div, lt_div_iff₀ hpos, mul_right_comm, mul_assoc]
  norm_cast

end Units

section Rounding

variable {num den : Nat}

/-- A quotient is shorter than the precision allows in units of its last place. -/
theorem num_lt_precision (format : BinaryFormat) (num : Nat) (hden : 0 < den) :
    (num : ℚ) < (2 ^ format.precision : Nat) * 2 ^ format.lastPlace num den * den := by
  have hplace : floorLogTwo num den + 1 ≤ (format.precision : Int) + format.lastPlace num den := by
    unfold lastPlace precision
    omega
  calc (num : ℚ) < 2 ^ (floorLogTwo num den + 1) * den := (floorLogTwo_spec num hden).1
    _ ≤ 2 ^ ((format.precision : Int) + format.lastPlace num den) * den :=
      mul_le_mul_of_nonneg_right (zpow_le_zpow_right₀ one_le_two hplace) (Nat.cast_nonneg den)
    _ = (2 ^ format.precision : Nat) * 2 ^ format.lastPlace num den * den := by
      rw [zpow_add₀ two_ne_zero, zpow_natCast, Nat.cast_pow, Nat.cast_ofNat]

/-- Rounding goes up at most to a significand that is a bit too long. -/
theorem roundedUnits_le (num : Nat) (hden : 0 < den) : format.roundedUnits num den ≤ 2 ^ format.precision := by
  have hlt := (num_lt_iff num den (2 ^ format.precision) (format.lastPlace num den)).mpr
    (num_lt_precision format num hden)
  have hpos : 0 < den * 2 ^ (format.lastPlace num den).toNat := Nat.mul_pos hden (Nat.two_pow_pos _)
  exact (roundDivEven_le _ _).trans ((Nat.div_lt_iff_lt_mul hpos).mpr hlt)

variable {negative negative' : Bool} {significand : Nat} {exponent : Int}

/-- A quotient that is rounded to a finite datum is rounded to one of the format. -/
theorem fits_of_roundRatio (hden : 0 < den)
    (h : format.roundRatio negative num den = .finite negative' significand exponent) :
    format.Fits significand exponent :=
  fits_of_ofUnits (roundedUnits_le num hden) (le_max_right _ _) h

/-- A positive quotient of the format has its last place not above its own exponent. -/
theorem lastPlace_le (hden : 0 < den) (hpos : 0 < significand) (hfits : format.Fits significand exponent)
    (h : (num : ℚ) = significand * 2 ^ exponent * den) : format.lastPlace num den ≤ exponent := by
  have hdenPos : (0 : ℚ) < den := by exact_mod_cast hden
  have hnum : 0 < num := by
    have hnumPos : (0 : ℚ) < num := by
      rw [h]
      positivity
    exact_mod_cast hnumPos
  have hlog : (2 : ℚ) ^ floorLogTwo num den < 2 ^ ((format.precision : Int) + exponent) := by
    refine lt_of_mul_lt_mul_right ?_ hdenPos.le
    calc (2 : ℚ) ^ floorLogTwo num den * den ≤ num := (floorLogTwo_spec num hden).2 hnum
      _ = significand * 2 ^ exponent * den := h
      _ < 2 ^ format.precision * 2 ^ exponent * den := by
        have hlt : (significand : ℚ) < 2 ^ format.precision := by exact_mod_cast hfits.significand_lt
        gcongr
      _ = 2 ^ ((format.precision : Int) + exponent) * den := by rw [zpow_add₀ two_ne_zero, zpow_natCast]
  have hbits := (zpow_lt_zpow_iff_right₀ one_lt_two).mp hlog
  unfold precision at hbits
  exact max_le (by omega) hfits.le_exponent

/-- A quotient of the format is a whole number of units of its last place, and this place is within the
format. -/
theorem exists_units (hden : 0 < den) (hfits : format.Fits significand exponent)
    (h : (num : ℚ) = significand * 2 ^ exponent * den) :
    ∃ units : Nat, (units : ℚ) * 2 ^ format.lastPlace num den = significand * 2 ^ exponent ∧
      format.lastPlace num den ≤ format.greatestExponent := by
  rcases Nat.eq_zero_or_pos significand with rfl | hpos
  · obtain rfl : num = 0 := by simpa using h
    have hlog := floorLogTwo_zero_lt hden
    refine ⟨0, by simp, max_le ?_ (hfits.le_exponent.trans hfits.exponent_le)⟩
    unfold greatestExponent
    omega
  · have hle := lastPlace_le hden hpos hfits h
    refine ⟨significand * 2 ^ (exponent - format.lastPlace num den).toNat, ?_, hle.trans hfits.exponent_le⟩
    rw [Nat.cast_mul, mul_assoc, two_zpow_toNat hle]

/-- A quotient of the format keeps its value when it is rounded. -/
theorem roundRatio_of_fits (negative : Bool) (hden : 0 < den) (hfits : format.Fits significand exponent)
    (h : (num : ℚ) = significand * 2 ^ exponent * den) :
    ∃ units place, format.roundRatio negative num den = .finite negative units place ∧
      (units : ℚ) * 2 ^ place = significand * 2 ^ exponent := by
  obtain ⟨units, hunits, hplace⟩ := exists_units hden hfits h
  have hnum : (num : ℚ) = units * 2 ^ format.lastPlace num den * den := by rw [h, hunits]
  have hpos : 0 < den * 2 ^ (format.lastPlace num den).toNat := Nat.mul_pos hden (Nat.two_pow_pos _)
  have hexact : format.roundedUnits num den = units := by
    rw [roundedUnits, (num_eq_iff num den units (format.lastPlace num den)).mpr hnum,
      roundDivEven_mul_right units hpos]
  have hlt : units < 2 ^ format.precision := by
    have hshort := num_lt_precision format num hden
    rw [← num_lt_iff, (num_eq_iff num den units (format.lastPlace num den)).mpr hnum] at hshort
    exact Nat.lt_of_mul_lt_mul_right hshort
  exact ⟨units, format.lastPlace num den, by rw [roundRatio_eq, hexact, ofUnits_of_lt hlt hplace], hunits⟩

end Rounding

/-- The quotient that is rounded in a conversion is the magnitude of the datum. -/
theorem magnitude_eq (significand : Nat) (exponent : Int) :
    ((significand * 2 ^ exponent.toNat : Nat) : ℚ) =
      significand * 2 ^ exponent * (2 ^ (-exponent).toNat : Nat) := by
  have hpos : (0 : ℚ) < (2 ^ (-exponent).toNat : Nat) := by positivity
  rw [two_zpow_eq_div, mul_assoc, div_mul_cancel₀ _ hpos.ne', Nat.cast_mul]

/-- A datum keeps its value when it is rounded to a format exactly if the format has it. -/
theorem holdsExactly_iff_has (hbias : 0 < format.bias) (datum : Datum) :
    format.holdsExactly datum = true ↔ format.Has datum := by
  cases datum with
  | finite negative significand exponent =>
    have hden : 0 < 2 ^ (-exponent).toNat := Nat.two_pow_pos _
    have hmagnitude := magnitude_eq significand exponent
    rw [has_finite_iff hbias, holdsExactly, convert]
    dsimp only [Nat.pow_eq]
    constructor
    · intro hkept
      cases hround : format.roundRatio negative (significand * 2 ^ exponent.toNat)
          (2 ^ (-exponent).toNat) with
      | finite negative' units place =>
        rw [hround, Datum.sameValue_finite_iff] at hkept
        exact ⟨units, place, fits_of_roundRatio hden hround, hkept.1⟩
      | infinite => cases hround ▸ hkept
      | notANumber => cases hround ▸ hkept
    · rintro ⟨units, place, hfits, hvalue⟩
      rw [← hvalue] at hmagnitude
      obtain ⟨units', place', hround, hkept⟩ := roundRatio_of_fits negative hden hfits hmagnitude
      rw [hround, Datum.sameValue_finite_iff]
      exact ⟨hkept.trans hvalue, Or.inl rfl⟩
  | infinite negative => exact iff_of_true (by simp [holdsExactly, convert, Datum.sameValue]) (has_infinite _)
  | notANumber negative =>
    refine iff_of_false (by simp [holdsExactly, convert, Datum.sameValue]) ?_
    rintro ⟨pattern, -, hsame⟩
    cases hdecode : format.decode pattern <;> cases hdecode ▸ hsame

end BinaryFormat

/-- Whether a double-precision value is not a not-a-number and is what some single-precision value widens to:
the same number or infinity, of the same sign. -/
def IsWidened (pattern : BitVec 64) : Prop :=
  (∀ negative, BinaryFormat.double.decode pattern ≠ .notANumber negative) ∧
    ∃ narrow : BitVec 32,
      (BinaryFormat.single.decode narrow).negative = (BinaryFormat.double.decode pattern).negative ∧
        (BinaryFormat.single.decode narrow).sameValue (BinaryFormat.double.decode pattern) = true

/-- Single precision holds exactly the values that are widened from it. -/
theorem fitsSingle_iff_isWidened (pattern : BitVec 64) : fitsSingle pattern = true ↔ IsWidened pattern := by
  rw [fitsSingle, BinaryFormat.holdsExactly_iff_has (by decide)]
  refine ⟨fun hhas => ⟨fun negative hnumber => ?_, hhas⟩, And.right⟩
  obtain ⟨narrow, -, hsame⟩ := hhas
  rw [hnumber] at hsame
  cases hdecode : BinaryFormat.single.decode narrow <;> cases hdecode ▸ hsame

instance : DecidablePred IsWidened := fun pattern => decidable_of_iff _ (fitsSingle_iff_isWidened pattern)

/-- A complex literal without a size is of single precision exactly if both of its parts are widened
single-precision values. Any other one is rejected, since a size has to be given. -/
theorem Scope.infer_complex_eq (scope : Scope) (pending : Pending) (re im : BitVec 64) :
    (scope.infer pending (.literal (.complex re im))).result =
      if IsWidened re ∧ IsWidened im then .ok (.scalar .complex64)
      else .error (.rejected (.unsizedComplex (Literal.complex re im).render)
        (some (Literal.complex re im).render)) := by
  have htype : (Literal.complex re im).storageType =
      if IsWidened re ∧ IsWidened im then .ok (.scalar .complex64)
      else .error (.unsizedComplex (Literal.complex re im).render) := by
    simp only [Literal.storageType, Literal.integer?, Bool.and_eq_true, fitsSingle_iff_isWidened]
  rw [infer, StorageTyping.infer, htype]
  split <;> rfl

/-- The least positive single-precision value, half of it, and negative infinity. -/
example : IsWidened 0x36a0000000000000#64 ∧ ¬ IsWidened 0x3690000000000000#64 ∧
    IsWidened 0xfff0000000000000#64 := by decide

end StorageTyping
