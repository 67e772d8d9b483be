/-
**The accuracy of the standard midpoints.**

The product of a midpoint is exact: four times a double only moves the exponent.  So the sum is the
first operation that rounds, and it rounds a whole number of smallest units: its error is relative
to the exact weighted sum `high + 4 * low`, however much of the two readings cancels.  The quotient
adds a relative error of the same size, and half of the smallest unit where it underflows.  It
cannot overflow, since a fifth of a double is far below the largest one.  A midpoint is therefore
finite exactly where the product and the sum are, and otherwise it is the infinity on the side of
the exact sum: a product that overflows is larger than every reading that is added to it.

Main definitions:

* `PegBox.AccurateMidpoint` — **what a midpoint says about the weighted sum** of two numbers.

Main results:

* `PegBox.Calibration.standard_weighs` — the standard weights are numbers;
* `PegBox.abs_five_mul_sub_le` — the error of the two roundings;
* `PegBox.accurateMidpoint_of_numbers` — the midpoint of two numbers is accurate;
* `PegBox.midpoints_accurate` — **the accuracy of every midpoint of a reading set**.
-/

import PegBox.Proofs.CountCapture
import PegBox.Proofs.WeightedMidpoint

set_option autoImplicit false

namespace PegBox

open Binary64

variable {high low s : ℚ} {mid : Float}

/-- **What a midpoint says about the weighted sum** of a high and a low. -/
structure AccurateMidpoint (high low : ℚ) (mid : Float) : Prop where
  /-- The midpoint is finite where neither the product nor the sum overflows. -/
  finite_iff :
    mid.isFinite = true ↔ |low| < 2 ^ 1022 ∧ |high + 4 * low| < 2 ^ 1024 - 2 ^ 970
  /-- A finite midpoint is a fifth of the weighted sum, but for the roundings. -/
  error_le : ∀ m, number? mid = some m →
    |5 * m - (high + 4 * low)| ≤ 2 ^ (-51 : ℤ) * |high + 4 * low| + 2 ^ (-1072 : ℤ)
  /-- A midpoint that is not finite is the infinity on the side of the weighted sum. -/
  overflow : mid.isFinite = false →
    high + 4 * low ≠ 0 ∧ decode mid = .infinite (decide (high + 4 * low < 0))
  isNaN_eq_false : mid.isNaN = false

/-! ### The two roundings -/

/-- **The error of the two roundings**, that of the sum and that of the quotient. -/
theorem abs_five_mul_sub_le (hs : OnGrid s) :
    |5 * nearest (nearest s / 5) - s| ≤ 2 ^ (-51 : ℤ) * |s| + 2 ^ (-1072 : ℤ) := by
  have hsum := abs_nearest_sub_le_of_onGrid hs
  have hgrown := abs_nearest_le_of_onGrid hs
  generalize nearest s = sum at *
  have hquotient := abs_nearest_sub_le_add (sum / 5)
  generalize nearest (sum / 5) = quotient at *
  have hfifth : |5 * quotient - sum| ≤ 2 ^ (-53 : ℤ) * |sum| + 5 * 2 ^ (-1075 : ℤ) := by
    have hscale : 5 * quotient - sum = 5 * (quotient - sum / 5) := by ring
    rw [hscale, abs_mul, Nat.abs_ofNat]
    rw [abs_div, Nat.abs_ofNat] at hquotient
    linarith
  have hrelative : (2 : ℚ) ^ (-51 : ℤ) = 4 * 2 ^ (-53 : ℤ) := by norm_num
  have habsolute : (2 : ℚ) ^ (-1072 : ℤ) = 8 * 2 ^ (-1075 : ℤ) := by
    rw [show (-1072 : ℤ) = 3 + -1075 from rfl, zpow_add₀ (by norm_num),
      show (2 : ℚ) ^ (3 : ℤ) = 8 by norm_num]
  calc |5 * quotient - s| ≤ |5 * quotient - sum| + |sum - s| := abs_sub_le _ _ _
    _ ≤ 2 ^ (-53 : ℤ) * |sum| + 5 * 2 ^ (-1075 : ℤ) + 2 ^ (-53 : ℤ) * |s| := by linarith
    _ ≤ 2 ^ (-53 : ℤ) * (2 * |s|) + 5 * 2 ^ (-1075 : ℤ) + 2 ^ (-53 : ℤ) * |s| := by gcongr
    _ = 3 * (2 ^ (-53 : ℤ) * |s|) + 5 * 2 ^ (-1075 : ℤ) := by ring
    _ ≤ 4 * (2 ^ (-53 : ℤ) * |s|) + 8 * 2 ^ (-1075 : ℤ) := by gcongr <;> norm_num
    _ = 2 ^ (-51 : ℤ) * |s| + 2 ^ (-1072 : ℤ) := by rw [hrelative, habsolute, mul_assoc]

/-- The exact product of a midpoint is not rounded. -/
theorem nearest_four_mul {reading : Float} (hlow : number? reading = some low) :
    nearest (4 * low) = 4 * low := by
  have hself := nearest_two_pow_mul hlow 2
  norm_num at hself
  exact hself

theorem abs_four_mul_lt_iff (low : ℚ) : |4 * low| < 2 ^ 1024 ↔ |low| < 2 ^ 1022 := by
  rw [abs_mul, Nat.abs_ofNat, show 1024 = 2 + 1022 from rfl, pow_add]
  generalize (2 : ℚ) ^ 1022 = bound
  constructor <;> intro h <;> linarith

/-- A fifth of a double does not round beyond the largest double. -/
theorem abs_nearest_fifth_lt (hs : |s| < 2 ^ 1024) : |nearest (s / 5)| < 2 ^ 1024 := by
  rw [abs_nearest_lt_iff, abs_div, Nat.abs_ofNat]
  rw [show 1024 = 54 + 970 from rfl, pow_add] at hs ⊢
  have hunit : (0 : ℚ) < 2 ^ 970 := by positivity
  generalize (2 : ℚ) ^ 970 = unit at *
  linarith

/-- A product that overflows is larger than every reading, and decides on the side of the sum. -/
theorem sum_side (hdominated : |high| < |4 * low|) :
    high + 4 * low ≠ 0 ∧ (4 * low < 0 ↔ high + 4 * low < 0) := by
  obtain ⟨hleft, hright⟩ := abs_lt.1 hdominated
  rcases lt_or_ge (4 * low) 0 with hneg | hnonneg
  · rw [abs_of_neg hneg] at hleft hright
    exact ⟨by linarith, by constructor <;> intro <;> linarith⟩
  · rw [abs_of_nonneg hnonneg] at hleft hright
    exact ⟨by linarith, by constructor <;> intro <;> linarith⟩

/-! ### The midpoints -/

theorem Calibration.standard_weighs : Calibration.standard.Weighs 4 5 where
  lowWeight := number?_lowWeight
  divisor := number?_divisor
  divisor_pos := by norm_num

/-- An infinity on the side of a weighted sum that overflows says all that there is to say. -/
theorem AccurateMidpoint.of_infinite
    (hfar : ¬(|low| < 2 ^ 1022 ∧ |high + 4 * low| < 2 ^ 1024 - 2 ^ 970))
    (hne : high + 4 * low ≠ 0) (hmid : decode mid = .infinite (decide (high + 4 * low < 0))) :
    AccurateMidpoint high low mid := by
  have hinfinite := isFinite_of_infinite hmid
  refine ⟨?_, ?_, fun _ => ⟨hne, hmid⟩, isNaN_of_infinite hmid⟩
  · rw [hinfinite]
    exact iff_of_false Bool.false_ne_true hfar
  · intro m hm
    have hfinite := (isFinite_iff mid).2 ⟨m, hm⟩
    rw [hinfinite] at hfinite
    cases hfinite

/-- **The midpoint of two numbers is accurate.** -/
theorem accurateMidpoint_of_numbers {highReading lowReading : Float}
    (hhigh : number? highReading = some high) (hlow : number? lowReading = some low) :
    AccurateMidpoint high low (Calibration.standard.midpoint highReading lowReading) := by
  have hmidpoint := Calibration.standard_weighs.midpointOf hhigh hlow
  have hexact := nearest_four_mul hlow
  generalize Calibration.standard.midpoint highReading lowReading = mid at *
  cases hmidpoint with
  | productOverflows hproduct hmid =>
      rw [hexact] at hproduct
      have hlarge : |high| < |4 * low| :=
        ((abs_le_of_number? hhigh).trans_lt (sub_lt_self _ (by positivity))).trans_le hproduct
      obtain ⟨hne, hside⟩ := sum_side hlarge
      refine .of_infinite ?_ hne (by rw [hmid, decide_eq_decide.2 hside])
      rintro ⟨hsmall, -⟩
      exact hproduct.not_gt ((abs_four_mul_lt_iff low).2 hsmall)
  | sumOverflows hproduct hsum hmid =>
      rw [hexact] at hsum hmid
      refine .of_infinite ?_ ?_ hmid
      · rintro ⟨-, hsmall⟩
        exact hsum.not_gt ((abs_nearest_lt_iff _).2 hsmall)
      · intro hzero
        rw [hzero, nearest_zero, abs_zero] at hsum
        exact hsum.not_gt (by positivity)
  | divided hproduct hsum hmid =>
      rw [hexact] at hproduct hsum hmid
      have hnumber := number?_of_rounded hmid (abs_nearest_fifth_lt hsum)
      have hfinite : mid.isFinite = true := (isFinite_iff mid).2 ⟨_, hnumber⟩
      have hgrid : OnGrid (high + 4 * low) :=
        (onGrid_of_number? hhigh).add (by exact_mod_cast (onGrid_of_number? hlow).intCast_mul 4)
      refine ⟨?_, ?_, ?_, hmid.isNaN_eq_false⟩
      · exact iff_of_true hfinite
          ⟨(abs_four_mul_lt_iff low).1 hproduct, (abs_nearest_lt_iff _).1 hsum⟩
      · intro m hm
        rw [hnumber, Option.some_inj] at hm
        rw [← hm]
        exact abs_five_mul_sub_le hgrid
      · intro hinfinite
        rw [hfinite] at hinfinite
        cases hinfinite

/-- **The accuracy of every midpoint of a reading set.** -/
theorem midpoints_accurate (set : ReadingSet) :
    List.Forall₂
      (fun reading mid => ∃ high low, number? reading.2.1 = some high ∧
        number? reading.2.2 = some low ∧ AccurateMidpoint high low mid)
      set.pegs (Calibration.standard.apply set) := by
  rw [Calibration.apply, List.forall₂_map_right_iff, List.forall₂_same]
  intro reading hreading
  obtain ⟨high, low, hhigh, hlow⟩ := set.exists_numbers hreading
  exact ⟨high, low, hhigh, hlow, accurateMidpoint_of_numbers hhigh hlow⟩

end PegBox
