/-
**The double nearest to a rational number.**

Every operation of binary64 arithmetic is the exact operation followed by one rounding.  This module
defines that rounding on the rational numbers, without a bound on the exponent: a number is measured
in units in the last place, the measure is rounded to the nearest whole number, and half-way between
two of them to the even one.  The unit of a number is given by its magnitude; below the normal
numbers it does not shrink any further.

Main definitions:

* `PegBox.Binary64.nearestEven` — the nearest whole number;
* `PegBox.Binary64.ulpExponent` — the power of two that is the unit of a number;
* `PegBox.Binary64.nearest` — **the rounding of a number**.

Main results:

* `PegBox.Binary64.abs_nearest_sub_le` — a rounding is at most half a unit away;
* `PegBox.Binary64.nearest_mono` — rounding keeps the order, also where the unit changes;
* `PegBox.Binary64.nearest_mul_zpow` — a number with few enough bits is kept as it is, a whole
  number below `2 ^ 53` in particular.
-/

import Mathlib.Algebra.Order.Field.Power
import Mathlib.Data.Int.Log
import Mathlib.Data.Rat.Floor
import Mathlib.Tactic.FieldSimp
import Mathlib.Tactic.Linarith
import Mathlib.Tactic.NormNum
import Mathlib.Tactic.Positivity
import Mathlib.Tactic.Ring

set_option autoImplicit false

namespace PegBox.Binary64

/-! ### The nearest whole number -/

/-- The whole number nearest to a rational one; half-way between two of them, the even one. -/
def nearestEven (q : ℚ) : ℤ :=
  if Int.fract q < 1 / 2 then ⌊q⌋
  else if 1 / 2 < Int.fract q then ⌊q⌋ + 1
  else ⌊q⌋ + ⌊q⌋ % 2

@[simp]
theorem nearestEven_intCast (n : ℤ) : nearestEven n = n := by
  simp [nearestEven]

theorem nearestEven_mem (q : ℚ) : ⌊q⌋ ≤ nearestEven q ∧ nearestEven q ≤ ⌊q⌋ + 1 := by
  unfold nearestEven
  split
  · omega
  · split <;> omega

/-- Rounding to a whole number moves a number by at most one half. -/
theorem abs_nearestEven_sub_le (q : ℚ) : |(nearestEven q : ℚ) - q| ≤ 1 / 2 := by
  have hq : (⌊q⌋ : ℚ) + Int.fract q = q := Int.floor_add_fract q
  have h0 := Int.fract_nonneg q
  have h1 := Int.fract_lt_one q
  unfold nearestEven
  split
  · rw [abs_le]
    constructor <;> linarith
  · split
    · rw [abs_le]
      push_cast
      constructor <;> linarith
    · obtain h | h : ⌊q⌋ % 2 = 0 ∨ ⌊q⌋ % 2 = 1 := by omega
      all_goals
        rw [h, abs_le]
        push_cast
        constructor <;> linarith

theorem nearestEven_mono {p q : ℚ} (h : p ≤ q) : nearestEven p ≤ nearestEven q := by
  have hfloor : ⌊p⌋ ≤ ⌊q⌋ := Int.floor_le_floor h
  rcases hfloor.lt_or_eq with hlt | heq
  · have hp := (nearestEven_mem p).2
    have hq := (nearestEven_mem q).1
    omega
  · -- between the same two whole numbers only the fraction decides
    have hfract : Int.fract p ≤ Int.fract q := by
      unfold Int.fract
      rw [heq]
      linarith
    unfold nearestEven
    rw [heq]
    split_ifs <;> first | omega | (exfalso; linarith)

theorem nearestEven_le {q : ℚ} {n : ℤ} (h : q ≤ n) : nearestEven q ≤ n := by
  rw [← nearestEven_intCast n]
  exact nearestEven_mono h

theorem le_nearestEven {q : ℚ} {n : ℤ} (h : n ≤ q) : n ≤ nearestEven q := by
  rw [← nearestEven_intCast n]
  exact nearestEven_mono h

/-- Rounding to a whole number does not depend on the side of zero. -/
theorem nearestEven_neg (q : ℚ) : nearestEven (-q) = -nearestEven q := by
  rcases eq_or_ne (Int.fract q) 0 with h0 | h0
  · obtain ⟨n, rfl⟩ : ∃ n : ℤ, (n : ℚ) = q := ⟨⌊q⌋, by
      have := Int.floor_add_fract q
      rwa [h0, add_zero] at this⟩
    rw [← Int.cast_neg, nearestEven_intCast, nearestEven_intCast]
  · have hfract : Int.fract (-q) = 1 - Int.fract q := Int.fract_neg h0
    have hfloor : ⌊-q⌋ = -⌊q⌋ - 1 := by
      rw [Int.floor_eq_iff]
      have hq : (⌊q⌋ : ℚ) + Int.fract q = q := Int.floor_add_fract q
      have hpos : 0 < Int.fract q := lt_of_le_of_ne (Int.fract_nonneg q) (Ne.symm h0)
      have hlt := Int.fract_lt_one q
      push_cast
      constructor <;> linarith
    unfold nearestEven
    rw [hfract, hfloor]
    split_ifs <;> first | omega | (exfalso; linarith)

/-! ### The unit in the last place -/

/-- The exponent of the unit of a number: the significand of a normal number has fifty-three bits,
and no unit is smaller than that of the subnormal numbers. -/
def ulpExponent (q : ℚ) : ℤ := max (Int.log 2 |q| - 52) (-1074)

theorem ulpExponent_neg (q : ℚ) : ulpExponent (-q) = ulpExponent q := by
  rw [ulpExponent, abs_neg, ulpExponent]

theorem ulpExponent_mono {p q : ℚ} (hp : 0 < |p|) (h : |p| ≤ |q|) :
    ulpExponent p ≤ ulpExponent q := by
  have := Int.log_mono_right (b := 2) hp h
  unfold ulpExponent
  omega

/-- A number below `2 ^ k` has a unit of at most `2 ^ (k - 53)`. -/
theorem ulpExponent_le {q : ℚ} {k : ℤ} (hq : 0 < |q|) (h : |q| < 2 ^ k) (hk : -1021 ≤ k) :
    ulpExponent q ≤ k - 53 := by
  have hlog : Int.log 2 |q| < k := by
    rw [← Int.lt_zpow_iff_log_lt (by norm_num) hq]
    exact_mod_cast h
  unfold ulpExponent
  omega

/-- The magnitude of a number is below `2 ^ 53` of its units. -/
theorem abs_lt_ulp (q : ℚ) : |q| < 2 ^ (ulpExponent q + 53) := by
  have hlog : |q| < (2 : ℚ) ^ (Int.log 2 |q| + 1) := by
    exact_mod_cast Int.lt_zpow_succ_log_self (by norm_num : 1 < 2) |q|
  refine hlog.trans_le (zpow_le_zpow_right₀ (by norm_num) ?_)
  unfold ulpExponent
  omega

/-- A measure in units is at most `2 ^ 53`. -/
theorem nearestEven_measure_le (q : ℚ) : nearestEven (q / 2 ^ ulpExponent q) ≤ 2 ^ 53 := by
  have hq := (le_abs_self q).trans_lt (abs_lt_ulp q)
  rw [zpow_add₀ (by norm_num)] at hq
  have hmeasure : q / 2 ^ ulpExponent q ≤ ((2 ^ 53 : ℤ) : ℚ) := by
    rw [div_le_iff₀ (by positivity)]
    push_cast
    linarith
  exact nearestEven_le hmeasure

/-- A measure in units is at least `2 ^ 52`, unless the unit is the smallest one. -/
theorem le_nearestEven_measure {q : ℚ} (hq : 0 < q) :
    2 ^ 52 ≤ nearestEven (q / 2 ^ ulpExponent q) ∨ ulpExponent q = -1074 := by
  rcases le_total (Int.log 2 |q| - 52) (-1074) with hlog | hlog
  · right
    rw [ulpExponent, max_eq_right hlog]
  · left
    have hlow : (2 : ℚ) ^ Int.log 2 |q| ≤ q := by
      rw [abs_of_pos hq]
      exact_mod_cast Int.zpow_log_le_self (by norm_num : 1 < 2) hq
    have hmeasure : ((2 ^ 52 : ℤ) : ℚ) ≤ q / 2 ^ ulpExponent q := by
      rw [ulpExponent, max_eq_left hlog, le_div_iff₀ (by positivity)]
      calc ((2 ^ 52 : ℤ) : ℚ) * 2 ^ (Int.log 2 |q| - 52) = 2 ^ Int.log 2 |q| := by
            rw [zpow_sub₀ (by norm_num)]; push_cast; field_simp
        _ ≤ q := hlow
    exact le_nearestEven hmeasure

/-! ### The rounding of a number -/

/-- **The rounding of a number**: its measure in units becomes the nearest whole number. -/
def nearest (q : ℚ) : ℚ := nearestEven (q / 2 ^ ulpExponent q) * 2 ^ ulpExponent q

theorem nearest_neg (q : ℚ) : nearest (-q) = -nearest q := by
  unfold nearest
  rw [ulpExponent_neg, neg_div, nearestEven_neg]
  push_cast
  ring

/-- A rounding is at most half a unit away. -/
theorem abs_nearest_sub_le (q : ℚ) : |nearest q - q| ≤ 2 ^ ulpExponent q / 2 := by
  have hunit : (0 : ℚ) < 2 ^ ulpExponent q := by positivity
  have hmeasure := abs_nearestEven_sub_le (q / 2 ^ ulpExponent q)
  have hsplit : nearest q - q =
      (nearestEven (q / 2 ^ ulpExponent q) - q / 2 ^ ulpExponent q) * 2 ^ ulpExponent q := by
    unfold nearest
    field_simp
  rw [hsplit, abs_mul, abs_of_pos hunit]
  nlinarith

/-- A number that is a whole number of its units is kept as it is. -/
theorem nearest_eq_self {m e : ℤ} (h : ulpExponent (m * 2 ^ e) ≤ e) :
    nearest (m * 2 ^ e) = m * 2 ^ e := by
  obtain ⟨k, hk⟩ := Int.eq_ofNat_of_zero_le (sub_nonneg.2 h)
  have hmeasure : ((m : ℚ) * 2 ^ e) / 2 ^ ulpExponent (m * 2 ^ e) = ((m * 2 ^ k : ℤ) : ℚ) := by
    rw [mul_div_assoc, ← zpow_sub₀ (by norm_num : (2 : ℚ) ≠ 0), hk]
    push_cast
    rfl
  unfold nearest
  rw [hmeasure, nearestEven_intCast, ← hmeasure]
  field_simp

@[simp]
theorem nearest_zero : nearest 0 = 0 := by
  simp [nearest, nearestEven]

/-- A number whose significand has at most fifty-three bits is kept as it is, unless its unit is too
small. -/
theorem nearest_mul_zpow {m e : ℤ} (hm : |m| < 2 ^ 53) (he : -1074 ≤ e) :
    nearest (m * 2 ^ e) = m * 2 ^ e := by
  rcases eq_or_ne m 0 with rfl | h0
  · simp
  · have hunit : (0 : ℚ) < 2 ^ e := by positivity
    have hpos : 0 < |(m : ℚ) * 2 ^ e| := abs_pos.2 (mul_ne_zero (by exact_mod_cast h0) hunit.ne')
    have hlt : |(m : ℚ) * 2 ^ e| < 2 ^ (53 + e) := by
      have hm' : |(m : ℚ)| < 2 ^ (53 : ℤ) := by exact_mod_cast hm
      rw [abs_mul, abs_of_pos hunit, zpow_add₀ (by norm_num)]
      gcongr
    apply nearest_eq_self
    have := ulpExponent_le hpos hlt (by omega)
    omega

/-- Whole numbers below `2 ^ 53` are kept as they are. -/
theorem nearest_intCast {n : ℤ} (h : |n| < 2 ^ 53) : nearest n = n := by
  simpa using nearest_mul_zpow (e := 0) h (by norm_num)

theorem nearest_mono_of_pos {p q : ℚ} (hp : 0 < p) (h : p ≤ q) : nearest p ≤ nearest q := by
  have hq : 0 < q := hp.trans_le h
  have hunits : ulpExponent p ≤ ulpExponent q := by
    apply ulpExponent_mono (abs_pos.2 hp.ne')
    rwa [abs_of_pos hp, abs_of_pos hq]
  rcases hunits.lt_or_eq with hlt | heq
  · -- the unit changes: a power of two with few bits lies between the two roundings
    have hlow : nearest p ≤ 2 ^ (ulpExponent p + 53) := by
      have hmeasure := nearestEven_measure_le p
      calc nearest p ≤ ((2 ^ 53 : ℤ) : ℚ) * 2 ^ ulpExponent p := by unfold nearest; gcongr
        _ = 2 ^ (ulpExponent p + 53) := by rw [zpow_add₀ (by norm_num)]; push_cast; ring
    have hhigh : (2 : ℚ) ^ (ulpExponent q + 52) ≤ nearest q := by
      have hmin : -1074 ≤ ulpExponent p := le_max_right _ _
      have hmeasure := (le_nearestEven_measure hq).resolve_right (by omega)
      calc (2 : ℚ) ^ (ulpExponent q + 52) = ((2 ^ 52 : ℤ) : ℚ) * 2 ^ ulpExponent q := by
            rw [zpow_add₀ (by norm_num)]; push_cast; ring
        _ ≤ nearest q := by unfold nearest; gcongr
    exact hlow.trans ((zpow_le_zpow_right₀ (by norm_num) (by omega)).trans hhigh)
  · unfold nearest
    rw [← heq]
    have hmeasure : nearestEven (p / 2 ^ ulpExponent p) ≤ nearestEven (q / 2 ^ ulpExponent p) :=
      nearestEven_mono (by gcongr)
    gcongr

theorem nearest_nonneg {q : ℚ} (h : 0 ≤ q) : 0 ≤ nearest q := by
  have hmeasure : 0 ≤ nearestEven (q / 2 ^ ulpExponent q) := by
    apply le_nearestEven
    rw [Int.cast_zero]
    positivity
  have : (0 : ℚ) ≤ nearestEven (q / 2 ^ ulpExponent q) := by exact_mod_cast hmeasure
  unfold nearest
  positivity

/-- **Rounding keeps the order**, also where the unit changes. -/
theorem nearest_mono {p q : ℚ} (h : p ≤ q) : nearest p ≤ nearest q := by
  rcases lt_or_ge 0 p with hp | hp
  · exact nearest_mono_of_pos hp h
  · have hnonpos {r : ℚ} (hr : r ≤ 0) : nearest r ≤ 0 := by
      have := nearest_nonneg (neg_nonneg.2 hr)
      rw [nearest_neg] at this
      linarith
    rcases lt_or_ge q 0 with hq | hq
    · have := nearest_mono_of_pos (neg_pos.2 hq) (neg_le_neg h)
      rw [nearest_neg, nearest_neg] at this
      linarith
    · exact (hnonpos hp).trans (nearest_nonneg hq)

end PegBox.Binary64
