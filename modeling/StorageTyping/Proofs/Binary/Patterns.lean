import Mathlib.Algebra.Order.Field.Power
import Mathlib.Algebra.Order.Ring.Rat
import Mathlib.Tactic.Positivity
import StorageTyping.Binary.Format

/-!
# Bit patterns of binary formats

A finite pattern of a format has a significand of no more bits than the precision and an exponent within the
bounds of the format (`BinaryFormat.fits_of_decode`). In turn there is a pattern for every such significand
and exponent, of either sign (`BinaryFormat.Fits.has`): its leading bit is shifted to the place of the implicit
one, or as far towards it as the exponents reach. So the finite data of a format are exactly these
(`BinaryFormat.has_finite_iff`).

Magnitudes are compared as rational numbers, in which exponents of either sign are alike.
-/

namespace StorageTyping

/-- A power of two as a whole number of units that are not above it. -/
theorem two_zpow_toNat {exponent unit : Int} (h : unit ≤ exponent) :
    ((2 ^ (exponent - unit).toNat : Nat) : ℚ) * 2 ^ unit = 2 ^ exponent := by
  have hsum : exponent = ((exponent - unit).toNat : Int) + unit := by omega
  push_cast
  rw [← zpow_natCast, ← zpow_add₀ two_ne_zero, ← hsum]

namespace Datum

/-- Finite data have the same value exactly if their magnitudes are the same number and, unless this is zero,
their signs agree. -/
theorem sameValue_finite_iff {negative negative' : Bool} {significand significand' : Nat}
    {exponent exponent' : Int} :
    (finite negative significand exponent).sameValue (finite negative' significand' exponent') = true ↔
      (significand : ℚ) * 2 ^ exponent = significand' * 2 ^ exponent' ∧
        (negative = negative' ∨ significand = 0) := by
  have hunit : (0 : ℚ) < 2 ^ min exponent exponent' := zpow_pos two_pos _
  have hleft := two_zpow_toNat (min_le_left exponent exponent')
  have hright := two_zpow_toNat (min_le_right exponent exponent')
  -- Both magnitudes are whole numbers of units, by factors of which only the sign matters below.
  generalize hfactor : 2 ^ (exponent - min exponent exponent').toNat = factor at hleft
  generalize hfactor' : 2 ^ (exponent' - min exponent exponent').toNat = factor' at hright
  have hpos : factor ≠ 0 := hfactor ▸ (Nat.two_pow_pos _).ne'
  have hpos' : factor' ≠ 0 := hfactor' ▸ (Nat.two_pow_pos _).ne'
  have hmagnitude : (significand : ℚ) * 2 ^ exponent = significand' * 2 ^ exponent' ↔
      significand * factor = significand' * factor' := by
    rw [← hleft, ← hright, ← mul_assoc, ← mul_assoc, mul_left_inj' hunit.ne']
    norm_cast
  have hzero : significand = 0 ↔ significand * factor = 0 := by simp [hpos]
  simp only [sameValue, inUnits, Nat.pow_eq, hfactor, hfactor', decide_eq_true_eq]
  rw [hmagnitude, hzero]
  generalize significand * factor = units
  generalize significand' * factor' = units'
  cases negative <;> cases negative' <;> simp <;> omega

/-- A significand can be scaled by a power of two if the exponent makes up for it. -/
theorem sameValue_scaled (negative : Bool) (significand shift : Nat) (exponent : Int) :
    (finite negative (significand * 2 ^ shift) (exponent - shift)).sameValue
      (finite negative significand exponent) = true := by
  have hshift : (exponent - (exponent - shift)).toNat = shift := by omega
  have hscaled := two_zpow_toNat (show exponent - shift ≤ exponent by omega)
  rw [hshift] at hscaled
  rw [sameValue_finite_iff, Nat.cast_mul, mul_assoc, hscaled]
  exact ⟨rfl, Or.inl rfl⟩

end Datum

namespace BinaryFormat

variable (format : BinaryFormat)

/-- The bit pattern of a sign, an exponent field and a fraction. -/
def ofFields (negative : Bool) (field fraction : Nat) : BitVec format.width :=
  .ofNat format.width
    ((negative.toNat * 2 ^ format.exponentBits + field) * 2 ^ format.fractionBits + fraction)

/-- A significand and an exponent that a finite pattern of a format may have. -/
structure Fits (significand : Nat) (exponent : Int) : Prop where
  significand_lt : significand < 2 ^ format.precision
  le_exponent : format.leastExponent ≤ exponent
  exponent_le : exponent ≤ format.greatestExponent

/-- Whether a format has a pattern for a datum, its sign included. -/
def Has (datum : Datum) : Prop :=
  ∃ pattern, (format.decode pattern).negative = datum.negative ∧
    (format.decode pattern).sameValue datum = true

variable {format} {field fraction : Nat}

theorem toNat_ofFields (negative : Bool) (hfield : field < 2 ^ format.exponentBits)
    (hfraction : fraction < 2 ^ format.fractionBits) :
    (format.ofFields negative field fraction).toNat =
      (negative.toNat * 2 ^ format.exponentBits + field) * 2 ^ format.fractionBits + fraction := by
  have hhead : negative.toNat * 2 ^ format.exponentBits + field + 1 ≤ 2 ^ (1 + format.exponentBits) := by
    rw [Nat.pow_add, Nat.pow_one]
    cases negative <;> simp <;> omega
  rw [ofFields, BitVec.toNat_ofNat]
  refine Nat.mod_eq_of_lt ?_
  calc (negative.toNat * 2 ^ format.exponentBits + field) * 2 ^ format.fractionBits + fraction
      < (negative.toNat * 2 ^ format.exponentBits + field) * 2 ^ format.fractionBits +
          2 ^ format.fractionBits := Nat.add_lt_add_left hfraction _
    _ = (negative.toNat * 2 ^ format.exponentBits + field + 1) * 2 ^ format.fractionBits :=
      (Nat.succ_mul _ _).symm
    _ ≤ 2 ^ (1 + format.exponentBits) * 2 ^ format.fractionBits := Nat.mul_le_mul_right _ hhead
    _ = 2 ^ format.width := (Nat.pow_add ..).symm

/-- The three fields of a pattern are read back from it. -/
theorem decode_ofFields (negative : Bool) (hfield : field < 2 ^ format.exponentBits)
    (hfraction : fraction < 2 ^ format.fractionBits) :
    format.decode (format.ofFields negative field fraction) =
      if field = 2 ^ format.exponentBits - 1 then
        if fraction = 0 then .infinite negative else .notANumber negative
      else if field = 0 then .finite negative fraction format.leastExponent
      else .finite negative (2 ^ format.fractionBits + fraction)
        (field - format.bias - format.fractionBits) := by
  have hbits := toNat_ofFields negative hfield hfraction
  have hfractionPos : 0 < 2 ^ format.fractionBits := Nat.two_pow_pos _
  have hexponentPos : 0 < 2 ^ format.exponentBits := Nat.two_pow_pos _
  have htail : (format.ofFields negative field fraction).toNat % 2 ^ format.fractionBits = fraction := by
    rw [hbits, Nat.mul_comm, Nat.mul_add_mod, Nat.mod_eq_of_lt hfraction]
  have hhead : (format.ofFields negative field fraction).toNat / 2 ^ format.fractionBits =
      negative.toNat * 2 ^ format.exponentBits + field := by
    rw [hbits, Nat.mul_comm, Nat.mul_add_div hfractionPos, Nat.div_eq_of_lt hfraction, Nat.add_zero]
  have hmiddle : (format.ofFields negative field fraction).toNat / 2 ^ format.fractionBits %
      2 ^ format.exponentBits = field := by
    rw [hhead, Nat.mul_comm, Nat.mul_add_mod, Nat.mod_eq_of_lt hfield]
  have hsign : (format.ofFields negative field fraction).toNat /
      2 ^ (format.exponentBits + format.fractionBits) % 2 = negative.toNat := by
    rw [Nat.add_comm, Nat.pow_add, ← Nat.div_div_eq_div_mul, hhead, Nat.mul_comm, Nat.mul_add_div hexponentPos,
      Nat.div_eq_of_lt hfield, Nat.add_zero]
    cases negative <;> rfl
  simp only [decode, Nat.pow_eq, htail, hmiddle, hsign]
  cases negative <;> simp

/-- The exponent field of a format with a positive bias has two values more than twice the bias. -/
theorem two_pow_exponentBits (hbias : 0 < format.bias) :
    2 ^ format.exponentBits = 2 * (format.bias + 1) := by
  unfold bias at hbias ⊢
  cases hbits : format.exponentBits with
  | zero => simp [hbits] at hbias
  | succ bits =>
    have hpos : 0 < 2 ^ bits := Nat.two_pow_pos bits
    simp only [Nat.add_sub_cancel, Nat.pow_eq, Nat.pow_succ]
    omega

/-- A finite pattern has a significand and an exponent of its format. -/
theorem fits_of_decode (hbias : 0 < format.bias) {pattern : BitVec format.width} {negative : Bool}
    {significand : Nat} {exponent : Int} (h : format.decode pattern = .finite negative significand exponent) :
    format.Fits significand exponent := by
  have hfields := two_pow_exponentBits hbias
  have hprecision : 2 ^ format.precision = 2 ^ format.fractionBits * 2 := Nat.pow_succ ..
  have hfraction := Nat.mod_lt pattern.toNat (Nat.two_pow_pos format.fractionBits)
  have hfield := Nat.mod_lt (pattern.toNat / 2 ^ format.fractionBits) (Nat.two_pow_pos format.exponentBits)
  unfold decode at h
  dsimp only [Nat.pow_eq] at h
  generalize pattern.toNat % 2 ^ format.fractionBits = fraction at h hfraction
  generalize pattern.toNat / 2 ^ format.fractionBits % 2 ^ format.exponentBits = field at h hfield
  split at h
  · split at h <;> cases h
  · split at h
    · cases h
      exact ⟨by omega, le_refl _, by unfold leastExponent greatestExponent; omega⟩
    · cases h
      exact ⟨by omega, by unfold leastExponent; omega, by unfold greatestExponent; omega⟩

section Fits

variable {significand : Nat} {exponent : Int}

/-- There is a finite pattern for every significand and exponent of a format, of either sign. -/
theorem Fits.has (hbias : 0 < format.bias) (h : format.Fits significand exponent) (negative : Bool) :
    format.Has (.finite negative significand exponent) := by
  obtain ⟨hlt, hleast, hgreatest⟩ := h
  have hfields := two_pow_exponentBits hbias
  rcases Nat.eq_zero_or_pos significand with rfl | hpos
  · refine ⟨format.ofFields negative 0 0, ?_⟩
    rw [decode_ofFields negative (Nat.two_pow_pos _) (Nat.two_pow_pos _), if_neg (by omega), if_pos rfl]
    exact ⟨rfl, Datum.sameValue_finite_iff.mpr ⟨by simp, Or.inr rfl⟩⟩
  have hlog : significand.log2 ≤ format.fractionBits :=
    Nat.le_of_lt_succ ((Nat.log2_lt hpos.ne').mpr hlt)
  -- The leading bit is shifted to the place of the implicit one, or as far as the exponents reach.
  obtain ⟨shift, hshift, hreach⟩ : ∃ shift : Nat, format.leastExponent ≤ exponent - shift ∧
      (significand.log2 + shift = format.fractionBits ∨
        significand.log2 + shift < format.fractionBits ∧ exponent - shift = format.leastExponent) := by
    rcases le_total ((format.fractionBits - significand.log2 : Nat) : Int) (exponent - format.leastExponent)
      with hle | hle
    · exact ⟨format.fractionBits - significand.log2, by omega, Or.inl (by omega)⟩
    · exact ⟨(exponent - format.leastExponent).toNat, by omega, by omega⟩
  have hscaled := Datum.sameValue_scaled negative significand shift exponent
  have hlow : 2 ^ (significand.log2 + shift) ≤ significand * 2 ^ shift := by
    rw [Nat.pow_add]
    exact Nat.mul_le_mul_right _ (Nat.log2_self_le hpos.ne')
  have hhigh : significand * 2 ^ shift < 2 ^ (significand.log2 + shift + 1) := by
    rw [Nat.add_right_comm, Nat.pow_add]
    exact Nat.mul_lt_mul_of_pos_right Nat.lt_log2_self (Nat.two_pow_pos shift)
  rcases hreach with hnormal | ⟨hsubnormal, hexponent⟩
  · rw [hnormal] at hlow hhigh
    rw [Nat.pow_succ] at hhigh
    unfold leastExponent at hshift
    unfold greatestExponent at hgreatest
    refine ⟨format.ofFields negative (exponent - shift + format.bias + format.fractionBits).toNat
      (significand * 2 ^ shift - 2 ^ format.fractionBits), ?_⟩
    have hfield : (((exponent - shift + format.bias + format.fractionBits).toNat : Nat) : Int) -
        format.bias - format.fractionBits = exponent - shift := by omega
    rw [decode_ofFields negative (by omega) (by omega), if_neg (by omega), if_neg (by omega), hfield,
      Nat.add_sub_cancel' hlow]
    exact ⟨rfl, hscaled⟩
  · have hfraction : significand * 2 ^ shift < 2 ^ format.fractionBits :=
      hhigh.trans_le (Nat.pow_le_pow_right two_pos hsubnormal)
    refine ⟨format.ofFields negative 0 (significand * 2 ^ shift), ?_⟩
    rw [decode_ofFields negative (Nat.two_pow_pos _) hfraction, if_neg (by omega), if_pos rfl, ← hexponent]
    exact ⟨rfl, hscaled⟩

/-- What has the value of a pattern has that of a significand and an exponent of the format. -/
theorem exists_fits_of_sameValue (hbias : 0 < format.bias) {pattern : BitVec format.width} {negative : Bool}
    (h : (format.decode pattern).sameValue (.finite negative significand exponent) = true) :
    ∃ units place, format.Fits units place ∧ (units : ℚ) * 2 ^ place = significand * 2 ^ exponent := by
  cases hdecode : format.decode pattern with
  | finite negative' units place =>
    rw [hdecode, Datum.sameValue_finite_iff] at h
    exact ⟨units, place, fits_of_decode hbias hdecode, h.1⟩
  | infinite => cases hdecode ▸ h
  | notANumber => cases hdecode ▸ h

/-- The finite data of a format are those of a significand and an exponent of it. -/
theorem has_finite_iff (hbias : 0 < format.bias) {negative : Bool} :
    format.Has (.finite negative significand exponent) ↔
      ∃ units place, format.Fits units place ∧ (units : ℚ) * 2 ^ place = significand * 2 ^ exponent := by
  refine ⟨fun ⟨_, _, hsame⟩ => exists_fits_of_sameValue hbias hsame, fun ⟨units, place, hfits, hvalue⟩ => ?_⟩
  obtain ⟨pattern, hsign, hsame⟩ := hfits.has hbias negative
  refine ⟨pattern, hsign, ?_⟩
  cases hdecode : format.decode pattern with
  | finite negative' units' place' =>
    rw [hdecode] at hsign hsame
    obtain ⟨hmagnitude, -⟩ := Datum.sameValue_finite_iff.mp hsame
    exact Datum.sameValue_finite_iff.mpr ⟨hmagnitude.trans hvalue, Or.inl hsign⟩
  | infinite => cases hdecode ▸ hsame
  | notANumber => cases hdecode ▸ hsame

end Fits

/-- Every format has both infinities. -/
theorem has_infinite (negative : Bool) : format.Has (.infinite negative) := by
  have hpos : 0 < 2 ^ format.exponentBits := Nat.two_pow_pos _
  refine ⟨format.ofFields negative (2 ^ format.exponentBits - 1) 0, ?_⟩
  rw [decode_ofFields negative (Nat.sub_lt hpos one_pos) (Nat.two_pow_pos _), if_pos rfl, if_pos rfl]
  exact ⟨rfl, by simp [Datum.sameValue]⟩

end BinaryFormat

end StorageTyping
