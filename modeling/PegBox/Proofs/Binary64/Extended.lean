/-
**Doubles beyond the numbers, and their order.**

A double that stands for no number is an infinity or not a number.  An operation that overflows
leaves an infinity behind, and the operations after it have to go on from there: a number added to
an infinity leaves it alone, and so does a division by a positive number.  What is not a number
comes out of none of these.  The doubles that stand for numbers are ordered as the numbers are: the
machine looks at the exponents first, which is right because a significand that is not at the
smallest unit uses all of its bits.

Main results:

* `PegBox.Binary64.isNaN_iff` — a double is not a number where its reading says so;
* `PegBox.Binary64.Rounded.isNaN_eq_false` — the rounding of a number is never such a double;
* `PegBox.Binary64.decode_add_infinite`, `PegBox.Binary64.decode_infinite_div` — **an infinity in a
  sum and in a quotient**;
* `PegBox.Binary64.compare_unpack` — the machine compares doubles as the numbers that they stand
  for;
* `PegBox.Binary64.le_iff` — **the order of doubles**.
-/

import PegBox.Proofs.Binary64.Arithmetic

set_option autoImplicit false

namespace PegBox.Binary64

open Float.Model Float.Model.UnpackedFloat

variable {x y : Float} {p q : ℚ}

/-! ### What is not a number -/

/-- A double is not a number where its reading says so. -/
theorem isNaN_iff (x : Float) : x.isNaN = true ↔ decode x = .nan := by
  rw [decode_eq_readUnpacked, Float.isNaN, Float.Model.isNaN]
  cases x.toModel.unpack <;> simp [UnpackedFloat.isNaN, readUnpacked]

theorem isNaN_of_number? (h : number? x = some q) : x.isNaN = false := by
  rw [Bool.eq_false_iff, ne_eq, isNaN_iff]
  intro hnan
  simp [number?, hnan, Decoded.number?] at h

theorem isNaN_of_infinite {negative : Bool} (h : decode x = .infinite negative) :
    x.isNaN = false := by
  rw [Bool.eq_false_iff, ne_eq, isNaN_iff, h]
  exact Decoded.noConfusion

/-- The rounding of a number is a number or an infinity. -/
theorem Rounded.isNaN_eq_false (h : Rounded x q) : x.isNaN = false := by
  rw [Rounded] at h
  split at h
  · exact isNaN_of_number? h
  · exact isNaN_of_infinite h

/-! ### Infinities -/

theorem isFinite_of_infinite {negative : Bool} (h : decode x = .infinite negative) :
    x.isFinite = false := by
  rw [Bool.eq_false_iff, ne_eq, isFinite_iff, number?, h]
  simp [Decoded.number?]

/-- What an operation sees of an infinity. -/
theorem unpack_of_infinite {negative : Bool} (h : decode x = .infinite negative) :
    ∃ sign, x.toModel.unpack = .infinity sign ∧ isNegative sign = negative := by
  rw [decode_eq_readUnpacked] at h
  cases hx : x.toModel.unpack with
  | infinity sign =>
      rw [hx, readUnpacked, Decoded.infinite.injEq] at h
      exact ⟨sign, rfl, h⟩
  | notANumber => simp [hx, readUnpacked] at h
  | zero sign => simp [hx, readUnpacked] at h
  | finite sign significand exponent hpos => simp [hx, readUnpacked] at h

theorem decode_pack_infinity (sign : Sign) :
    decode (.ofModel (.pack (.infinity sign))) = .infinite (isNegative sign) := by
  cases sign <;> decide

/-- **A number added to an infinity** leaves it alone. -/
theorem decode_add_infinite {negative : Bool} (hx : number? x = some p)
    (hy : decode y = .infinite negative) : decode (x + y) = .infinite negative := by
  have hadd : x + y = .ofModel
      (.pack (UnpackedFloat.add Format.binary64 x.toModel.unpack y.toModel.unpack)) := rfl
  obtain ⟨t, huy, rfl⟩ := unpack_of_infinite hy
  rw [hadd]
  obtain ⟨s, hux, -⟩ | ⟨s, m, e, hm, hux, -⟩ := unpack_of_number? hx <;>
    rw [hux, huy] <;>
    exact decode_pack_infinity t

/-- **An infinity divided by a positive number** keeps its side. -/
theorem decode_infinite_div {negative : Bool} (hx : decode x = .infinite negative)
    (hy : number? y = some q) (hq : 0 < q) : decode (x / y) = .infinite negative := by
  have hdiv : x / y = .ofModel
      (.pack (UnpackedFloat.div Format.binary64 x.toModel.unpack y.toModel.unpack)) := rfl
  obtain ⟨s, hux, rfl⟩ := unpack_of_infinite hx
  rw [hdiv]
  obtain ⟨t, -, rfl⟩ | ⟨t, n, f, hn, huy, rfl, -⟩ := unpack_of_number? hy
  · exact absurd hq (lt_irrefl 0)
  · have hsign : isNegative t = false := by
      by_contra hne
      have hpos : (0 : ℚ) < n * 2 ^ f := by positivity
      rw [Bool.eq_true_of_not_eq_false hne, signed_true] at hq
      linarith
    rw [hux, huy, UnpackedFloat.div, decode_pack_infinity, isNegative_div, hsign, Bool.xor_false]

/-! ### The order -/

/-- A larger exponent makes a larger magnitude, because the significand behind it uses all of its
bits. -/
theorem magnitude_lt {m n : ℕ} {e f : ℤ} (hm : m < 2 ^ 53) (he : -1074 ≤ e) (hef : e < f)
    (hnormal : 2 ^ 52 ≤ n ∨ f = -1074) : (m : ℚ) * 2 ^ e < n * 2 ^ f := by
  have hm' : (m : ℚ) < 2 ^ 53 := by exact_mod_cast hm
  have hn : (2 : ℚ) ^ 52 ≤ n := by exact_mod_cast hnormal.resolve_right (by omega)
  calc (m : ℚ) * 2 ^ e < 2 ^ 53 * 2 ^ e := by gcongr
    _ = 2 ^ 52 * 2 ^ (e + 1) := by rw [zpow_add_one₀ (by norm_num)]; ring
    _ ≤ n * 2 ^ f := by gcongr; norm_num; omega

/-- The machine compares magnitudes by their exponents, then by their significands. -/
theorem compare_magnitude {m n : ℕ} {e f : ℤ} (hm : m < 2 ^ 53) (hn : n < 2 ^ 53)
    (he : -1074 ≤ e) (hf : -1074 ≤ f) (hmnormal : 2 ^ 52 ≤ m ∨ e = -1074)
    (hnnormal : 2 ^ 52 ≤ n ∨ f = -1074) :
    (compare e f).then (compare m n) = compare ((m : ℚ) * 2 ^ e) (n * 2 ^ f) := by
  rcases lt_trichotomy e f with hlt | rfl | hgt
  · rw [compare_lt_iff_lt.2 hlt, compare_lt_iff_lt.2 (magnitude_lt hm he hlt hnnormal)]
    rfl
  · have hunit : (0 : ℚ) < 2 ^ e := by positivity
    rw [compare_eq_iff_eq.2 rfl, Ordering.then]
    rcases lt_trichotomy m n with hlt | rfl | hgt
    · have hlt' : (m : ℚ) < n := by exact_mod_cast hlt
      rw [compare_lt_iff_lt.2 hlt, compare_lt_iff_lt.2 (mul_lt_mul_of_pos_right hlt' hunit)]
    · rw [compare_eq_iff_eq.2 rfl, compare_eq_iff_eq.2 rfl]
    · have hgt' : (n : ℚ) < m := by exact_mod_cast hgt
      rw [compare_gt_iff_gt.2 hgt, compare_gt_iff_gt.2 (mul_lt_mul_of_pos_right hgt' hunit)]
  · rw [compare_gt_iff_gt.2 hgt, compare_gt_iff_gt.2 (magnitude_lt hn hf hgt hmnormal)]
    rfl

theorem compare_neg_neg (p q : ℚ) : compare (-p) (-q) = (compare p q).swap := by
  rw [← cmp_eq_compare, ← cmp_eq_compare, cmp_swap]
  exact StrictAnti.cmp_map_eq (fun _ _ => neg_lt_neg) p q

/-- **The machine compares doubles as the numbers that they stand for.** -/
theorem compare_unpack (hx : number? x = some p) (hy : number? y = some q) :
    UnpackedFloat.compare x.toModel.unpack y.toModel.unpack = some (compare p q) := by
  obtain ⟨s, hux, rfl⟩ | ⟨s, m, e, hm, hux, rfl, hmlt, hemin, -, hmnormal⟩ :=
      unpack_of_number? hx <;>
    obtain ⟨t, huy, rfl⟩ | ⟨t, n, f, hn, huy, rfl, hnlt, hfmin, -, hnnormal⟩ :=
      unpack_of_number? hy <;>
    rw [hux, huy]
  · rw [compare_eq_iff_eq.2 rfl]
    rfl
  · have hpos : (0 : ℚ) < n * 2 ^ f := by positivity
    cases t with
    | positive =>
        rw [isNegative, signed_false, one_mul, compare_lt_iff_lt.2 hpos]
        rfl
    | negative =>
        rw [isNegative, signed_true, neg_one_mul, compare_gt_iff_gt.2 (neg_neg_of_pos hpos)]
        rfl
  · have hpos : (0 : ℚ) < m * 2 ^ e := by positivity
    cases s with
    | positive =>
        rw [isNegative, signed_false, one_mul, compare_gt_iff_gt.2 hpos]
        rfl
    | negative =>
        rw [isNegative, signed_true, neg_one_mul, compare_lt_iff_lt.2 (neg_neg_of_pos hpos)]
        rfl
  · have hmpos : (0 : ℚ) < m * 2 ^ e := by positivity
    have hnpos : (0 : ℚ) < n * 2 ^ f := by positivity
    have hmagnitude := compare_magnitude hmlt hnlt hemin hfmin hmnormal hnnormal
    cases s <;> cases t <;>
      simp only [isNegative, signed_true, signed_false, one_mul, neg_one_mul]
    case positive.positive =>
      rw [← hmagnitude]
      rfl
    case positive.negative =>
      rw [compare_gt_iff_gt.2 ((neg_neg_of_pos hnpos).trans hmpos)]
      rfl
    case negative.positive =>
      rw [compare_lt_iff_lt.2 ((neg_neg_of_pos hmpos).trans hnpos)]
      rfl
    case negative.negative =>
      rw [compare_neg_neg, ← hmagnitude]
      rfl

/-- The order is that of the comparison, where there is one. -/
theorem le_iff_compare :
    x ≤ y ↔ (UnpackedFloat.compare x.toModel.unpack y.toModel.unpack).any Ordering.isLE = true :=
  decide_eq_true_iff

/-- **The order of doubles** that stand for numbers is that of the numbers. -/
theorem le_iff (hx : number? x = some p) (hy : number? y = some q) : x ≤ y ↔ p ≤ q := by
  rw [le_iff_compare, compare_unpack hx hy, Option.any_some, Ordering.isLE_iff_ne_gt,
    compare_gt_iff_gt.not, not_lt]

end PegBox.Binary64
