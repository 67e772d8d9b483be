/-
**How far a rounding goes.**

A rounding moves a number by at most half a unit.  Relative to the number that is `2 ^ (-53)`,
unless the unit is the smallest one; and a whole number of smallest units is not moved there at
all.  Every double is such a whole number, so sums of doubles and their whole multiples are, and no
underflow takes part in their rounding.  At the other end, a rounding stays below `2 ^ 1024` exactly
where the number is more than half a unit below it.

Main definitions:

* `PegBox.Binary64.OnGrid` — a whole number of smallest units.

Main results:

* `PegBox.Binary64.onGrid_of_number?` — the doubles lie on the grid;
* `PegBox.Binary64.abs_nearest_sub_le_of_onGrid`, `PegBox.Binary64.abs_nearest_sub_le_add` — **the
  error of a rounding**, on the grid and off it;
* `PegBox.Binary64.abs_nearest_lt_iff` — **which numbers round to doubles**.
-/

import PegBox.Proofs.Binary64.Arithmetic

set_option autoImplicit false

namespace PegBox.Binary64

variable {x : Float} {p q : ℚ}

/-! ### The grid of the smallest units -/

/-- A whole number of smallest units. -/
def OnGrid (q : ℚ) : Prop := ∃ n : ℤ, q = n * 2 ^ (-1074 : ℤ)

theorem onGrid_mul_zpow (m : ℤ) {e : ℤ} (he : -1074 ≤ e) : OnGrid (m * 2 ^ e) := by
  obtain ⟨k, hk⟩ := Int.eq_ofNat_of_zero_le (sub_nonneg.2 he)
  refine ⟨m * 2 ^ k, ?_⟩
  rw [show e = k + -1074 by omega, zpow_add₀ (by norm_num), zpow_natCast, Int.cast_mul,
    Int.cast_pow, Int.cast_ofNat, mul_assoc]

theorem onGrid_intCast (n : ℤ) : OnGrid n := by
  simpa using onGrid_mul_zpow n (e := 0) (by norm_num)

theorem OnGrid.add (hp : OnGrid p) (hq : OnGrid q) : OnGrid (p + q) := by
  obtain ⟨m, rfl⟩ := hp
  obtain ⟨n, rfl⟩ := hq
  exact ⟨m + n, by rw [Int.cast_add, add_mul]⟩

theorem OnGrid.intCast_mul (n : ℤ) (hq : OnGrid q) : OnGrid (n * q) := by
  obtain ⟨m, rfl⟩ := hq
  exact ⟨n * m, by rw [Int.cast_mul, mul_assoc]⟩

/-- The number of a double has at most fifty-three bits, at a unit that a double can have. -/
theorem exists_significand_of_number? (h : number? x = some q) :
    ∃ m e : ℤ, q = m * 2 ^ e ∧ |m| < 2 ^ 53 ∧ -1074 ≤ e ∧ e ≤ 971 := by
  obtain ⟨negative, significand, e, hx, rfl⟩ := exists_decode_of_number? h
  obtain ⟨hlt, hmin, hmax, -⟩ := bounds_of_decode hx
  have habs : |(significand : ℤ)| < 2 ^ 53 := by
    rw [abs_of_nonneg (by positivity)]
    exact_mod_cast hlt
  cases negative with
  | false => exact ⟨significand, e, by simp, habs, hmin, hmax⟩
  | true => exact ⟨-significand, e, by simp, by rwa [abs_neg], hmin, hmax⟩

/-- **The doubles lie on the grid.** -/
theorem onGrid_of_number? (h : number? x = some q) : OnGrid q := by
  obtain ⟨m, e, rfl, -, hmin, -⟩ := exists_significand_of_number? h
  exact onGrid_mul_zpow m hmin

/-- A double times a power of two is kept as it is, where it overflows too. -/
theorem nearest_two_pow_mul (h : number? x = some q) (k : ℕ) : nearest (2 ^ k * q) = 2 ^ k * q := by
  obtain ⟨m, e, rfl, hm, hmin, -⟩ := exists_significand_of_number? h
  have hshift : (2 : ℚ) ^ k * (m * 2 ^ e) = m * 2 ^ (e + k) := by
    rw [zpow_add₀ (by norm_num), zpow_natCast]
    ring
  rw [hshift]
  exact nearest_mul_zpow hm (by omega)

/-- The largest double is one unit below `2 ^ 1024`. -/
theorem abs_le_of_number? (h : number? x = some q) : |q| ≤ 2 ^ 1024 - 2 ^ 971 := by
  obtain ⟨m, e, rfl, hm, -, hmax⟩ := exists_significand_of_number? h
  have hm' : |(m : ℚ)| ≤ 2 ^ 53 - 1 := by
    have : |m| ≤ 2 ^ 53 - 1 := by omega
    exact_mod_cast this
  have he : (2 : ℚ) ^ e ≤ 2 ^ 971 := by
    rw [← zpow_natCast]
    exact zpow_le_zpow_right₀ (by norm_num) hmax
  rw [abs_mul, abs_of_pos (by positivity : (0 : ℚ) < 2 ^ e)]
  calc |(m : ℚ)| * 2 ^ e ≤ (2 ^ 53 - 1) * 2 ^ 971 :=
        mul_le_mul hm' he (by positivity) (by norm_num)
    _ = 2 ^ 1024 - 2 ^ 971 := by rw [sub_mul, one_mul, ← pow_add]

/-! ### The error of a rounding -/

/-- The error of a rounding above the smallest unit is relative to the number. -/
theorem half_ulp_le (hq : q ≠ 0) : (2 : ℚ) ^ (Int.log 2 |q| - 52) / 2 ≤ 2 ^ (-53 : ℤ) * |q| := by
  have hlog : (2 : ℚ) ^ Int.log 2 |q| ≤ |q| := by
    exact_mod_cast Int.zpow_log_le_self (by norm_num : 1 < 2) (abs_pos.2 hq)
  calc (2 : ℚ) ^ (Int.log 2 |q| - 52) / 2 = 2 ^ (-53 : ℤ) * 2 ^ Int.log 2 |q| := by
        rw [zpow_sub₀ (by norm_num)]; norm_num; ring
    _ ≤ 2 ^ (-53 : ℤ) * |q| := by gcongr

/-- **The error of a rounding on the grid**: below the normal numbers there is none. -/
theorem abs_nearest_sub_le_of_onGrid (h : OnGrid q) : |nearest q - q| ≤ 2 ^ (-53 : ℤ) * |q| := by
  rcases eq_or_ne q 0 with rfl | hq
  · simp
  · rcases le_total (Int.log 2 |q| - 52) (-1074) with hsmall | hnormal
    · obtain ⟨n, rfl⟩ := h
      have hself : nearest ((n : ℚ) * 2 ^ (-1074 : ℤ)) = n * 2 ^ (-1074 : ℤ) :=
        nearest_eq_self (by rw [ulpExponent, max_eq_right hsmall])
      rw [hself, sub_self, abs_zero]
      positivity
    · have herror := abs_nearest_sub_le q
      rw [ulpExponent, max_eq_left hnormal] at herror
      exact herror.trans (half_ulp_le hq)

/-- A rounding on the grid at most doubles a magnitude. -/
theorem abs_nearest_le_of_onGrid (h : OnGrid q) : |nearest q| ≤ 2 * |q| := by
  have hunit : (2 : ℚ) ^ (-53 : ℤ) * |q| ≤ 1 * |q| := by
    gcongr
    norm_num
  calc |nearest q| ≤ |nearest q - q| + |q| := by simpa using abs_add_le (nearest q - q) q
    _ ≤ 2 * |q| := by linarith [abs_nearest_sub_le_of_onGrid h]

/-- **The error of a rounding**, with the half of the smallest unit that an underflow costs. -/
theorem abs_nearest_sub_le_add (q : ℚ) :
    |nearest q - q| ≤ 2 ^ (-53 : ℤ) * |q| + 2 ^ (-1075 : ℤ) := by
  rcases eq_or_ne q 0 with rfl | hq
  · simp
  · have herror := abs_nearest_sub_le q
    rcases le_total (Int.log 2 |q| - 52) (-1074) with hsmall | hnormal
    · rw [ulpExponent, max_eq_right hsmall] at herror
      have hhalf : (2 : ℚ) ^ (-1074 : ℤ) / 2 = 2 ^ (-1075 : ℤ) := by
        rw [show (-1075 : ℤ) = -1074 - 1 from rfl, zpow_sub_one₀ (by norm_num), div_eq_mul_inv]
      rw [hhalf] at herror
      exact herror.trans (le_add_of_nonneg_left (by positivity))
    · rw [ulpExponent, max_eq_left hnormal] at herror
      exact (herror.trans (half_ulp_le hq)).trans (le_add_of_nonneg_right (by positivity))

/-- A positive number on the grid does not round to zero. -/
theorem nearest_pos_of_onGrid (h : OnGrid q) (hq : 0 < q) : 0 < nearest q := by
  have herror := (abs_le.1 (abs_nearest_sub_le_of_onGrid h)).1
  rw [abs_of_pos hq] at herror
  have hfactor : (2 : ℚ) ^ (-53 : ℤ) < 1 := by norm_num
  nlinarith

/-! ### Overflow -/

theorem abs_nearest (q : ℚ) : |nearest q| = nearest |q| := by
  rcases le_total 0 q with hq | hq
  · rw [abs_of_nonneg hq, abs_of_nonneg (nearest_nonneg hq)]
  · have hnonneg := nearest_nonneg (neg_nonneg.2 hq)
    rw [nearest_neg] at hnonneg
    rw [abs_of_nonpos hq, nearest_neg, abs_of_nonpos (by linarith)]

/-- The numbers from `2 ^ 1023` on have the largest unit that a double can have. -/
theorem ulpExponent_top (hlow : 2 ^ 1023 ≤ |q|) (hhigh : |q| < 2 ^ 1024) : ulpExponent q = 971 := by
  have hpos : 0 < |q| := (by positivity : (0 : ℚ) < 2 ^ 1023).trans_le hlow
  have hlog : 1023 ≤ Int.log 2 |q| := by
    rw [← Int.zpow_le_iff_le_log (by norm_num) hpos, zpow_ofNat]
    exact_mod_cast hlow
  have hle := ulpExponent_le (k := 1024) hpos (by rwa [zpow_ofNat]) (by norm_num)
  unfold ulpExponent at hle ⊢
  omega

/-- Half-way between the largest double and the next power of two, the tie goes to the power. -/
theorem nearest_overflow : nearest (2 ^ 1024 - 2 ^ 970) = 2 ^ 1024 := by
  have hsplit : (2 : ℚ) ^ 1024 - 2 ^ 970 = (2 ^ 53 - 1 / 2) * 2 ^ 971 := by
    rw [show 1024 = 53 + 971 from rfl, show 971 = 1 + 970 from rfl, pow_add, pow_add]
    generalize (2 : ℚ) ^ 970 = unit
    ring
  have hlow : (2 : ℚ) ^ 1023 ≤ 2 ^ 1024 - 2 ^ 970 := by
    rw [hsplit, show 1023 = 52 + 971 from rfl, pow_add]
    exact mul_le_mul_of_nonneg_right (by norm_num) (by positivity)
  have hnonneg : (0 : ℚ) ≤ 2 ^ 1024 - 2 ^ 970 := (by positivity : (0 : ℚ) ≤ 2 ^ 1023).trans hlow
  have hunit : ulpExponent (2 ^ 1024 - 2 ^ 970) = 971 := by
    apply ulpExponent_top <;> rw [abs_of_nonneg hnonneg]
    · exact hlow
    · exact sub_lt_self _ (by positivity)
  have hmeasure : nearestEven (2 ^ 53 - 1 / 2) = 2 ^ 53 := by
    have hfloor : ⌊(2 : ℚ) ^ 53 - 1 / 2⌋ = 2 ^ 53 - 1 := by norm_num
    norm_num [nearestEven, Int.fract, hfloor]
  rw [nearest, hunit, hsplit, zpow_ofNat, mul_div_cancel_right₀ _ (by positivity), hmeasure,
    Int.cast_pow, Int.cast_ofNat, ← pow_add]

/-- **Which numbers round to doubles**: those that are less than half a unit above the largest
double. -/
theorem abs_nearest_lt_iff (q : ℚ) : |nearest q| < 2 ^ 1024 ↔ |q| < 2 ^ 1024 - 2 ^ 970 := by
  rw [abs_nearest]
  constructor
  · intro hsmall
    by_contra hbig
    have hmono := nearest_mono (not_lt.1 hbig)
    rw [nearest_overflow] at hmono
    exact absurd hsmall hmono.not_gt
  · intro hsmall
    rcases eq_or_ne q 0 with rfl | hq
    · simp
    · have hbound : |(|q|)| < 2 ^ (1024 : ℤ) := by
        rw [abs_abs, zpow_ofNat]
        exact hsmall.trans (sub_lt_self _ (by positivity))
      have hunit := ulpExponent_le (abs_pos.2 (abs_ne_zero.2 hq)) hbound (by norm_num)
      have hhalf : (2 : ℚ) ^ ulpExponent |q| / 2 ≤ 2 ^ 970 := by
        rw [div_le_iff₀ (by norm_num), ← pow_succ, ← zpow_natCast]
        exact zpow_le_zpow_right₀ (by norm_num) hunit
      have herror := (abs_le.1 (abs_nearest_sub_le |q|)).2
      calc nearest |q| ≤ |q| + 2 ^ 970 := by
            rw [← sub_le_iff_le_add']
            exact herror.trans hhalf
        _ < 2 ^ 1024 := lt_sub_iff_add_lt.1 hsmall

end PegBox.Binary64
