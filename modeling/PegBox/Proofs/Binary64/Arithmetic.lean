/-
**Binary64 arithmetic is exact arithmetic, rounded once.**

The operations on doubles work on significands and exponents: they compute enough bits of the exact
result, remember in two more bits what they leave out, and shift and round the significand.  This
module shows that all of this amounts to one thing.  The sum, the product and the quotient of two
doubles that stand for numbers are the sum, the product and the quotient of those numbers, rounded
to the nearest double; where the rounding is beyond every double, the result is the infinity on its
side.

Main definitions:

* `PegBox.Binary64.Keeps` — what an extended significand knows about the exact number;
* `PegBox.Binary64.Rounded` — **a double is the rounding of a number**.

Main results:

* `PegBox.Binary64.rounded_roundWithAccuracy` — the rounding step of all operations;
* `PegBox.Binary64.rounded_add`, `PegBox.Binary64.rounded_mul`, `PegBox.Binary64.rounded_div` — the
  operations;
* `PegBox.Binary64.number?_of_rounded_natCast` — whole numbers come out of an operation as they are;
* `PegBox.Binary64.number?_toFloat` — a 16-bit word is a double as it is.
-/

import PegBox.Proofs.Binary64.Nearest
import PegBox.Proofs.Binary64.Reading

set_option autoImplicit false

namespace PegBox.Binary64

open Float.Model Float.Model.UnpackedFloat

/-! ### What a shifted significand knows -/

/-- An extended significand keeps what rounding needs to know about a number: the whole part of its
double, and whether there is anything behind it. -/
structure Keeps (kept : ExtendedMantissa) (q : ℚ) : Prop where
  /-- The significand and the round bit are the whole part of the double. -/
  halves : ⌊2 * q⌋ = 2 * (kept.mantissa : ℤ) + (kept.roundBit.toNat : ℤ)
  /-- The sticky bit is clear where the double is a whole number. -/
  sticky : kept.stickyBit = false ↔ 2 * q = ⌊2 * q⌋

theorem Keeps.floor {kept : ExtendedMantissa} {q : ℚ} (h : Keeps kept q) :
    ⌊q⌋ = (kept.mantissa : ℤ) := by
  have hlow := Int.floor_le (2 * q)
  have hhigh := Int.lt_floor_add_one (2 * q)
  have hbit : kept.roundBit.toNat ≤ 1 := Bool.toNat_le _
  have hbit' : (kept.roundBit.toNat : ℚ) ≤ 1 := by exact_mod_cast hbit
  have hbit0 : (0 : ℚ) ≤ kept.roundBit.toNat := by positivity
  rw [h.halves] at hlow hhigh
  push_cast at hlow hhigh
  rw [Int.floor_eq_iff]
  push_cast
  constructor <;> linarith

/-- The significand is rounded as the number is. -/
theorem Keeps.roundedMantissa {kept : ExtendedMantissa} {q : ℚ} (h : Keeps kept q) :
    (kept.roundedMantissa : ℤ) = nearestEven q := by
  have hfract : Int.fract q = q - (kept.mantissa : ℤ) := by rw [Int.fract, h.floor]
  have hhalves := h.halves
  have hsticky := h.sticky
  have hlow := Int.floor_le (2 * q)
  have hhigh := Int.lt_floor_add_one (2 * q)
  rw [nearestEven, hfract, h.floor]
  obtain ⟨mantissa, roundBit, stickyBit⟩ := kept
  rw [hhalves] at hsticky hlow hhigh
  -- the two bits say on which side of one half the fraction lies
  cases roundBit <;> cases stickyBit <;>
    simp only [Bool.toNat_false, Bool.toNat_true, true_iff, Bool.true_eq_false, false_iff]
      at hsticky hlow hhigh <;>
    push_cast at hsticky hlow hhigh
  case false.false =>
    rw [if_pos (by push_cast; linarith)]
    rfl
  case false.true =>
    have hne : 2 * (mantissa : ℚ) < 2 * q := lt_of_le_of_ne (by linarith) (by
      intro heq
      exact hsticky (by linarith))
    rw [if_pos (by push_cast; linarith)]
    rfl
  case true.false =>
    rw [if_neg (by push_cast; linarith), if_neg (by push_cast; linarith)]
    rfl
  case true.true =>
    have hne : 2 * (mantissa : ℚ) + 1 < 2 * q := lt_of_le_of_ne hlow (by
      intro heq
      exact hsticky (by linarith))
    rw [if_neg (by push_cast; linarith), if_pos (by push_cast; linarith)]
    rfl

theorem Keeps.shiftRightOne {kept : ExtendedMantissa} {q : ℚ} (h : Keeps kept q) :
    Keeps kept.shiftRightOne (q / 2) := by
  have hdouble : 2 * (q / 2) = q := by ring
  have hbit : (kept.mantissa % 2 != 0).toNat = kept.mantissa % 2 := by
    rcases Nat.mod_two_eq_zero_or_one kept.mantissa with hmod | hmod <;> rw [hmod] <;> rfl
  constructor
  · rw [hdouble, h.floor]
    change (kept.mantissa : ℤ) =
      2 * ((kept.mantissa / 2 : ℕ) : ℤ) + ((kept.mantissa % 2 != 0).toNat : ℤ)
    rw [hbit]
    omega
  · rw [hdouble, h.floor]
    change (kept.roundBit || kept.stickyBit) = false ↔ _
    rw [Bool.or_eq_false_iff, h.sticky]
    constructor
    · rintro ⟨hround, hq⟩
      rw [h.halves, hround] at hq
      push_cast [Bool.toNat_false] at hq ⊢
      linarith
    · intro hq
      have hwhole : 2 * q = ((2 * (kept.mantissa : ℤ) : ℤ) : ℚ) := by
        rw [hq]
        push_cast
        rfl
      have hhalves := h.halves
      rw [hwhole, Int.floor_intCast] at hhalves
      refine ⟨?_, by rw [hwhole, Int.floor_intCast]⟩
      rw [← Bool.toNat_eq_zero]
      omega

theorem Keeps.shiftRight {kept : ExtendedMantissa} {q : ℚ} (h : Keeps kept q) (n : ℕ) :
    Keeps (kept >>> n) (q / 2 ^ n) := by
  change Keeps (n.repeat ExtendedMantissa.shiftRightOne kept) (q / 2 ^ n)
  induction n with
  | zero => simpa [Nat.repeat] using h
  | succ n ih =>
      rw [Nat.repeat, pow_succ, ← div_div]
      exact ih.shiftRightOne

theorem keeps_of_eq {m : ℕ} {roundBit : Bool} {q : ℚ} (h : 2 * q = 2 * m + roundBit.toNat) :
    Keeps ⟨m, roundBit, false⟩ q := by
  have hwhole : 2 * q = ((2 * (m : ℤ) + (roundBit.toNat : ℤ) : ℤ) : ℚ) := by
    rw [h]
    push_cast
    rfl
  constructor <;> rw [hwhole, Int.floor_intCast]
  exact ⟨fun _ => rfl, fun _ => rfl⟩

theorem keeps_of_lt {m : ℕ} {roundBit : Bool} {q : ℚ} (hlow : 2 * m + roundBit.toNat < 2 * q)
    (hhigh : 2 * q < 2 * m + roundBit.toNat + 1) : Keeps ⟨m, roundBit, true⟩ q := by
  have hfloor : ⌊2 * q⌋ = 2 * (m : ℤ) + (roundBit.toNat : ℤ) := by
    rw [Int.floor_eq_iff]
    push_cast
    exact ⟨hlow.le, hhigh⟩
  refine ⟨hfloor, ?_⟩
  rw [hfloor]
  push_cast
  constructor
  · intro hset
    cases hset
  · intro heq
    linarith

theorem keeps_exact (m : ℕ) : Keeps (.ofMantissaAndAccuracy m .exact) m :=
  keeps_of_eq (by simp)

/-- What a division with remainder knows about the exact quotient. -/
theorem keeps_fraction (m num den : ℕ) (h : num < den) :
    Keeps (.ofMantissaAndAccuracy m (accuracyOfFraction num den)) (m + num / den) := by
  have hden : (0 : ℚ) < den := by exact_mod_cast (Nat.zero_le num).trans_lt h
  have hlt : (num : ℚ) / den < 1 := by
    rw [div_lt_one hden]
    exact_mod_cast h
  unfold accuracyOfFraction
  split
  · next hzero => simpa [hzero] using keeps_exact m
  · next hnonzero =>
    have hpos : (0 : ℚ) < num / den := div_pos (by exact_mod_cast Nat.pos_of_ne_zero hnonzero) hden
    have hcancel : (num : ℚ) / den * den = num := div_mul_cancel₀ _ hden.ne'
    cases hside : compare (2 * num) den with
    | lt =>
        have hhalf : 2 * (num : ℚ) < den := by exact_mod_cast Nat.compare_eq_lt.1 hside
        have : (num : ℚ) / den < 1 / 2 := by rw [div_lt_iff₀ hden]; linarith
        apply keeps_of_lt <;> simp only [Bool.toNat_false, Nat.cast_zero] <;> linarith
    | eq =>
        have hhalf : 2 * (num : ℚ) = den := by exact_mod_cast Nat.compare_eq_eq.1 hside
        have : (num : ℚ) / den = 1 / 2 := by rw [div_eq_iff hden.ne']; linarith
        apply keeps_of_eq
        rw [this, Bool.toNat_true]
        push_cast
        ring
    | gt =>
        have hhalf : (den : ℚ) < 2 * num := by exact_mod_cast Nat.compare_eq_gt.1 hside
        have : 1 / 2 < (num : ℚ) / den := by rw [lt_div_iff₀ hden]; linarith
        apply keeps_of_lt <;> simp only [Bool.toNat_true, Nat.cast_one] <;> linarith

/-! ### The shift to the unit of the result -/

theorem targetExponent_eq (m : ℕ) (e : ℤ) :
    Format.binary64.targetExponent (totalExponent m e) = max (m.log2 + e - 52) (-1074) := by
  rw [Format.targetExponent, totalExponent, show Format.binary64.minExponent = -1074 from rfl,
    show (Format.binary64.mantissaBits : ℤ) = 53 from rfl]
  congr 1
  ring

theorem mantissa_ofMantissaAndAccuracy (m : ℕ) (accuracy : Accuracy) :
    (ExtendedMantissa.ofMantissaAndAccuracy m accuracy).mantissa = m := by
  cases accuracy with
  | exact => rfl
  | inexact side => cases side <;> rfl

/-- The unit of a number that is known by its whole part, if enough bits are known of it. -/
theorem ulpExponent_of_floor {m : ℕ} {e : ℤ} {q : ℚ} (hq : 0 < q) (hfloor : ⌊q⌋ = m)
    (hbits : 52 ≤ m.log2 ∨ e ≤ -1074) :
    ulpExponent (q * 2 ^ e) = max (m.log2 + e - 52) (-1074) := by
  have hpos : 0 < q * 2 ^ e := by positivity
  have hhigh : q < m + 1 := by
    have := Int.lt_floor_add_one q
    rw [hfloor] at this
    exact_mod_cast this
  rw [ulpExponent, abs_of_pos hpos]
  rcases Nat.eq_zero_or_pos m with rfl | hm
  · -- below the smallest unit the exact magnitude does not matter
    have he : e ≤ -1074 := hbits.resolve_left (by simp)
    have hlog : Int.log 2 (q * 2 ^ e) < e := by
      rw [← Int.lt_zpow_iff_log_lt (by norm_num) hpos]
      push_cast
      simp only [Nat.cast_zero, zero_add] at hhigh
      nlinarith [zpow_pos (by norm_num : (0 : ℚ) < 2) e]
    have hzero : ((0 : ℕ).log2 : ℤ) = 0 := by simp
    omega
  · have hlow : (m : ℚ) ≤ q := by
      have := Int.floor_le q
      rw [hfloor] at this
      exact_mod_cast this
    have hlog : Int.log 2 (q * 2 ^ e) = m.log2 + e := by
      apply le_antisymm
      · rw [← Int.lt_add_one_iff, ← Int.lt_zpow_iff_log_lt (by norm_num) hpos]
        push_cast
        have hm2 : m + 1 ≤ 2 ^ (m.log2 + 1) := Nat.lt_log2_self
        have hm2' : (m : ℚ) + 1 ≤ 2 ^ (m.log2 + 1) := by exact_mod_cast hm2
        calc q * 2 ^ e < 2 ^ (m.log2 + 1) * 2 ^ e := by gcongr; exact hhigh.trans_le hm2'
          _ = 2 ^ ((m.log2 : ℤ) + e + 1) := by
            rw [← zpow_natCast, ← zpow_add₀ (by norm_num)]; congr 1; push_cast; ring
      · rw [← Int.zpow_le_iff_le_log (by norm_num) hpos]
        push_cast
        have hm2 : 2 ^ m.log2 ≤ m := Nat.log2_self_le hm.ne'
        have hm2' : (2 : ℚ) ^ m.log2 ≤ m := by exact_mod_cast hm2
        calc (2 : ℚ) ^ ((m.log2 : ℤ) + e) = 2 ^ m.log2 * 2 ^ e := by
              rw [zpow_add₀ (by norm_num), zpow_natCast]
          _ ≤ q * 2 ^ e := by gcongr; exact hm2'.trans hlow
    rw [hlog]

/-- The first shift of an operation brings the significand to the unit of the exact result. -/
theorem shiftToTargetExponent_spec {m : ℕ} {e : ℤ} {accuracy : Accuracy} {q : ℚ}
    (hkeeps : Keeps (.ofMantissaAndAccuracy m accuracy) q) (hq : 0 < q)
    (hbits : 52 ≤ m.log2 ∨ e ≤ -1074) :
    (shiftToTargetExponent Format.binary64 m e accuracy).2 = ulpExponent (q * 2 ^ e) ∧
      Keeps (shiftToTargetExponent Format.binary64 m e accuracy).1
        (q * 2 ^ e / 2 ^ ulpExponent (q * 2 ^ e)) := by
  have hfloor := hkeeps.floor
  rw [mantissa_ofMantissaAndAccuracy] at hfloor
  have hunit := ulpExponent_of_floor hq hfloor hbits
  rw [shiftToTargetExponent, targetExponent_eq, ← hunit, shiftToExponent]
  obtain ⟨k, hk⟩ := Int.eq_ofNat_of_zero_le (a := ulpExponent (q * 2 ^ e) - e) (by omega)
  have hcount : (ulpExponent (q * 2 ^ e) - e).toNat = k := by omega
  have hmeasure : q * 2 ^ e / 2 ^ ulpExponent (q * 2 ^ e) = q / 2 ^ k := by
    rw [show ulpExponent (q * 2 ^ e) = e + k by omega, zpow_add₀ (by norm_num), zpow_natCast]
    field_simp
  dsimp only
  rw [hcount, hmeasure]
  exact ⟨by omega, hkeeps.shiftRight k⟩

/-- The second shift of an operation has nothing to do where the significand fits. -/
theorem shiftToTargetExponent_of_lt {r : ℕ} {t : ℤ} (hr : r < 2 ^ 53) (ht : -1074 ≤ t) :
    shiftToTargetExponent Format.binary64 r t .exact = (⟨r, false, false⟩, t) := by
  have hlog : r.log2 ≤ 52 := by
    rcases Nat.eq_zero_or_pos r with rfl | hpos
    · simp
    · have := (Nat.log2_lt hpos.ne').2 hr
      omega
  have hcount : (max ((r.log2 : ℤ) + t - 52) (-1074) - t).toNat = 0 := by omega
  rw [shiftToTargetExponent, targetExponent_eq, shiftToExponent, hcount]
  simp only [Nat.cast_zero, add_zero]
  rfl

/-- A significand that was rounded up to the next power of two is shifted once more. -/
theorem shiftToTargetExponent_carry {t : ℤ} (ht : -1074 ≤ t) :
    shiftToTargetExponent Format.binary64 (2 ^ 53) t .exact = (⟨2 ^ 52, false, false⟩, t + 1) := by
  have hcount : (max (((2 ^ 53 : ℕ).log2 : ℤ) + t - 52) (-1074) - t).toNat = 1 := by
    rw [Nat.log2_two_pow]
    omega
  rw [shiftToTargetExponent, targetExponent_eq, shiftToExponent, hcount]
  rfl

/-! ### The rounding step -/

/-- **A double is the rounding of a number**: it stands for it, or it is the infinity on its side
where the rounding is beyond every double. -/
def Rounded (x : Float) (q : ℚ) : Prop :=
  if |nearest q| < 2 ^ 1024 then number? x = some (nearest q)
  else decode x = .infinite (decide (q < 0))

theorem nearest_signed (negative : Bool) (a : ℚ) :
    nearest (signed negative * a) = signed negative * nearest a := by
  cases negative <;> simp [nearest_neg]

/-- A packed result whose number is the rounding of a positive one. -/
theorem rounded_pack {sign : Sign} {significand : ℕ} {exponent : ℤ} {a : ℚ} (ha : 0 < a)
    (hpos : 0 < significand) (hlt : significand < 2 ^ 53) (hmin : -1074 ≤ exponent)
    (hnormal : 2 ^ 52 ≤ significand ∨ exponent = -1074)
    (hnearest : nearest a = significand * 2 ^ exponent) :
    Rounded (.ofModel (.pack (.finite sign significand exponent hpos)))
      (signed (isNegative sign) * a) := by
  have hdecode := decode_pack_finite sign hpos hlt hmin hnormal
  have habs : |nearest (signed (isNegative sign) * a)| = significand * 2 ^ exponent := by
    rw [nearest_signed, abs_mul, abs_of_nonneg (nearest_nonneg ha.le), hnearest]
    cases sign <;> simp [isNegative]
  rw [Rounded, habs]
  by_cases hbig : 972 ≤ exponent
  · have hover : (2 : ℚ) ^ 1024 ≤ significand * 2 ^ exponent := by
      have h52 : (2 : ℚ) ^ 52 ≤ significand := by
        exact_mod_cast hnormal.resolve_right (by omega)
      calc (2 : ℚ) ^ 1024 = (2 : ℚ) ^ 52 * (2 : ℚ) ^ (972 : ℤ) := by rw [zpow_ofNat, ← pow_add]
        _ ≤ (significand : ℚ) * 2 ^ exponent := by gcongr; norm_num
    rw [if_neg hover.not_gt, hdecode, if_pos hbig]
    congr 1
    cases sign <;> simp [isNegative, ha, ha.le]
  · have hfits : (significand : ℚ) * 2 ^ exponent < 2 ^ 1024 := by
      have h53 : (significand : ℚ) < 2 ^ 53 := by exact_mod_cast hlt
      calc (significand : ℚ) * 2 ^ exponent < 2 ^ 53 * 2 ^ exponent := by gcongr
        _ ≤ (2 : ℚ) ^ 53 * (2 : ℚ) ^ (971 : ℤ) := by gcongr; norm_num; omega
        _ = 2 ^ 1024 := by rw [zpow_ofNat, ← pow_add]
    rw [if_pos hfits, nearest_signed, hnearest]
    rw [if_neg hbig] at hdecode
    exact number?_of_decode hdecode

/-- **The rounding step of all operations**: what an operation knows of its exact result is enough
to round it. -/
theorem rounded_roundWithAccuracy (sign : Sign) {m : ℕ} {e : ℤ} {accuracy : Accuracy} {q : ℚ}
    (hkeeps : Keeps (.ofMantissaAndAccuracy m accuracy) q) (hq : 0 < q)
    (hbits : 52 ≤ m.log2 ∨ e ≤ -1074) :
    Rounded (.ofModel (.pack (roundWithAccuracy Format.binary64 sign m e accuracy)))
      (signed (isNegative sign) * (q * 2 ^ e)) := by
  obtain ⟨hunit, hkept⟩ := shiftToTargetExponent_spec hkeeps hq hbits
  have ha : 0 < q * 2 ^ e := by positivity
  generalize q * 2 ^ e = a at *
  generalize hshift : shiftToTargetExponent Format.binary64 m e accuracy = shifted at *
  obtain ⟨kept, t⟩ := shifted
  dsimp only at hunit hkept
  have hmin : -1074 ≤ t := hunit ▸ le_max_right _ _
  have hrounded := hkept.roundedMantissa
  have hle := nearestEven_measure_le a
  have hnormal := le_nearestEven_measure ha
  have hnearest : nearest a = (kept.roundedMantissa : ℕ) * 2 ^ t := by
    rw [nearest, ← hrounded, hunit]
    push_cast
    rfl
  rw [← hrounded] at hle hnormal
  rw [← hunit] at hnormal
  rw [roundWithAccuracy, hshift]
  dsimp only
  generalize kept.roundedMantissa = r at *
  -- a significand that is rounded up to the next power of two has one bit too many
  rcases (show r ≤ 2 ^ 53 by exact_mod_cast hle).lt_or_eq with hr | rfl
  · rw [shiftToTargetExponent_of_lt hr hmin]
    dsimp only
    split
    · next hzero =>
      have hnumber : number? (.ofModel (.pack (.zero sign))) = some 0 := by
        rw [number?, decode_pack_zero, Decoded.number?]
        simp
      rw [Rounded, nearest_signed, hnearest, hzero]
      simpa using hnumber
    · next hnonzero =>
      exact rounded_pack ha (Nat.pos_of_ne_zero hnonzero) hr hmin (by exact_mod_cast hnormal)
        hnearest
  · rw [shiftToTargetExponent_carry hmin, dif_neg (by norm_num)]
    apply rounded_pack ha (by norm_num) (by norm_num) (by omega) (Or.inl le_rfl)
    rw [hnearest, zpow_add₀ (by norm_num)]
    push_cast
    ring

/-! ### The operations -/

theorem rounded_zero {x : Float} (h : number? x = some 0) : Rounded x 0 := by
  simpa [Rounded] using h

theorem signed_xor (a b : Bool) : signed (a ^^ b) = signed a * signed b := by
  cases a <;> cases b <;> simp

theorem isNegative_mul (s t : Sign) : isNegative (s * t) = (isNegative s ^^ isNegative t) := by
  cases s <;> cases t <;> rfl

theorem isNegative_div (s t : Sign) : isNegative (s / t) = (isNegative s ^^ isNegative t) := by
  cases s <;> cases t <;> rfl

theorem number?_pack_zero (sign : Sign) : number? (.ofModel (.pack (.zero sign))) = some 0 := by
  rw [number?, decode_pack_zero, Decoded.number?]
  simp

/-- **Multiplication** is exact multiplication, rounded. -/
theorem rounded_mul {x y : Float} {p q : ℚ} (hx : number? x = some p) (hy : number? y = some q) :
    Rounded (x * y) (p * q) := by
  have hmul : x * y = .ofModel
      (.pack (UnpackedFloat.mul Format.binary64 x.toModel.unpack y.toModel.unpack)) := rfl
  rw [hmul]
  obtain ⟨s, hux, rfl⟩ | ⟨s, m, e, hm, hux, rfl, -, hemin, -, hmnormal⟩ := unpack_of_number? hx <;>
    obtain ⟨t, huy, rfl⟩ | ⟨t, n, f, hn, huy, rfl, -, hfmin, -, hnnormal⟩ :=
      unpack_of_number? hy <;>
    rw [hux, huy, UnpackedFloat.mul]
  · rw [zero_mul]
    exact rounded_zero (number?_pack_zero _)
  · rw [zero_mul]
    exact rounded_zero (number?_pack_zero _)
  · rw [mul_zero]
    exact rounded_zero (number?_pack_zero _)
  · have hpos : 0 < m * n := Nat.mul_pos hm hn
    have hbits : 52 ≤ (m * n).log2 ∨ e + f ≤ -1074 := by
      rw [Nat.le_log2 hpos.ne']
      rcases hmnormal with h | rfl
      · exact Or.inl (h.trans (Nat.le_mul_of_pos_right m hn))
      · rcases hnnormal with h | rfl
        · exact Or.inl (h.trans (Nat.le_mul_of_pos_left n hm))
        · exact Or.inr (by norm_num)
    have hrounded := rounded_roundWithAccuracy (s * t) (keeps_exact (m * n))
      (by exact_mod_cast hpos) hbits
    convert hrounded using 1
    rw [isNegative_mul, signed_xor, zpow_add₀ (by norm_num)]
    push_cast
    ring

/-- A magnitude brought down to the unit of its rounding keeps its value and has enough bits. -/
theorem rounded_round (sign : Sign) {m : ℕ} (hm : 0 < m) (e : ℤ) :
    Rounded (.ofModel (.pack (UnpackedFloat.round Format.binary64 sign m e)))
      (signed (isNegative sign) * (m * 2 ^ e)) := by
  rw [UnpackedFloat.round, targetExponent_eq, decreaseExponent]
  generalize hk : (e - max ((m.log2 : ℤ) + e - 52) (-1074)).toNat = k
  dsimp only
  have hshift : m <<< k = m * 2 ^ k := Nat.shiftLeft_eq m k
  have hlog : (m * 2 ^ k).log2 = m.log2 + k := by
    rw [Nat.log2_eq_iff (by positivity)]
    have hlow : 2 ^ m.log2 ≤ m := Nat.log2_self_le hm.ne'
    have hhigh : m < 2 ^ (m.log2 + 1) := Nat.lt_log2_self
    constructor
    · rw [pow_add]
      exact Nat.mul_le_mul_right _ hlow
    · rw [show m.log2 + k + 1 = m.log2 + 1 + k by ring, pow_add]
      exact Nat.mul_lt_mul_of_pos_right hhigh (by positivity)
  rw [hshift]
  have hrounded := rounded_roundWithAccuracy sign (e := e - k) (keeps_exact (m * 2 ^ k))
    (by positivity) (by rw [hlog]; omega)
  convert hrounded using 2
  rw [zpow_sub₀ (by norm_num), zpow_natCast]
  push_cast
  field_simp

/-- Rounding a whole number of units of any size. -/
theorem rounded_normalize (m e : ℤ) :
    Rounded (.ofModel (.pack (UnpackedFloat.normalize Format.binary64 m e .positive)))
      (m * 2 ^ e) := by
  rw [UnpackedFloat.normalize]
  cases hside : compare m 0 with
  | lt =>
      have hneg : m < 0 := compare_lt_iff_lt.1 hside
      obtain ⟨k, hk⟩ := Int.eq_ofNat_of_zero_le (by omega : 0 ≤ -m)
      have hrounded := rounded_round .negative (m := k) (by omega) e
      dsimp only
      rw [show (-m).toNat = k by omega]
      convert hrounded using 1
      rw [show m = -(k : ℤ) by omega, isNegative, signed_true]
      push_cast
      ring
  | eq =>
      rw [compare_eq_iff_eq.1 hside]
      simpa using rounded_zero (number?_pack_zero .positive)
  | gt =>
      have hpos : 0 < m := compare_gt_iff_gt.1 hside
      obtain ⟨k, rfl⟩ := Int.eq_ofNat_of_zero_le hpos.le
      have hrounded := rounded_round .positive (m := k) (by omega) e
      dsimp only
      rw [Int.toNat_natCast]
      convert hrounded using 1
      rw [isNegative, signed_false]
      push_cast
      ring

/-- A double that stands for a number is its own rounding. -/
theorem rounded_pack_unpack {x : Float} {q : ℚ} (hx : number? x = some q) :
    Rounded (.ofModel (.pack x.toModel.unpack)) q := by
  obtain ⟨s, hux, rfl⟩ | ⟨s, m, e, hm, hux, rfl, hlt, hmin, -, hnormal⟩ := unpack_of_number? hx <;>
    rw [hux]
  · exact rounded_zero (number?_pack_zero s)
  · have hpos : (0 : ℚ) < m := by exact_mod_cast hm
    have ha : (0 : ℚ) < m * 2 ^ e := by positivity
    refine rounded_pack ha hm hlt hmin hnormal ?_
    have hbits : |(m : ℤ)| < 2 ^ 53 := by
      rw [abs_of_nonneg (by positivity)]
      exact_mod_cast hlt
    exact_mod_cast nearest_mul_zpow hbits hmin

theorem decreaseExponent_value {m : ℕ} {e t : ℤ} (h : t ≤ e) :
    ((decreaseExponent m e t).1 : ℚ) * 2 ^ t = m * 2 ^ e := by
  obtain ⟨k, hk⟩ := Int.eq_ofNat_of_zero_le (sub_nonneg.2 h)
  rw [decreaseExponent]
  dsimp only
  rw [hk, Int.toNat_natCast, Nat.shiftLeft_eq, show e = t + k by omega, zpow_add₀ (by norm_num),
    zpow_natCast]
  push_cast
  ring

theorem cast_apply (s : Sign) (n : ℕ) : ((s.apply n : ℤ) : ℚ) = signed (isNegative s) * n := by
  cases s <;> simp [Sign.apply, isNegative]

/-- **Addition** is exact addition, rounded. -/
theorem rounded_add {x y : Float} {p q : ℚ} (hx : number? x = some p) (hy : number? y = some q) :
    Rounded (x + y) (p + q) := by
  have hadd : x + y = .ofModel
      (.pack (UnpackedFloat.add Format.binary64 x.toModel.unpack y.toModel.unpack)) := rfl
  have hselfx := rounded_pack_unpack hx
  have hselfy := rounded_pack_unpack hy
  rw [hadd]
  obtain ⟨s, hux, rfl⟩ | ⟨s, m, e, hm, hux, rfl, -⟩ := unpack_of_number? hx <;>
    obtain ⟨t, huy, rfl⟩ | ⟨t, n, f, hn, huy, rfl, -⟩ := unpack_of_number? hy <;>
    rw [hux, huy]
  · rw [add_zero, UnpackedFloat.add]
    split <;> exact rounded_zero (number?_pack_zero _)
  · rw [huy] at hselfy
    rw [zero_add]
    exact hselfy
  · rw [hux] at hselfx
    rw [add_zero]
    exact hselfx
  · have hrounded := rounded_normalize
      (s.apply (decreaseExponent m e (min e f)).1 + t.apply (decreaseExponent n f (min e f)).1)
      (min e f)
    rw [UnpackedFloat.add]
    convert hrounded using 1
    rw [Int.cast_add, cast_apply, cast_apply, add_mul, mul_assoc, mul_assoc,
      decreaseExponent_value (min_le_left e f), decreaseExponent_value (min_le_right e f)]

/-- The quotient of two significands, to enough bits. -/
theorem divCore_spec {m n : ℕ} (hm : 0 < m) (hn : 0 < n) (e f : ℤ) :
    let core := divCore Format.binary64 m e n f
    ∃ q : ℚ, 0 < q ∧ Keeps (.ofMantissaAndAccuracy core.1 core.2.2) q ∧
      q * 2 ^ core.2.1 = (m * 2 ^ e) / (n * 2 ^ f) ∧
      (52 ≤ core.1.log2 ∨ core.2.1 ≤ -1074) := by
  dsimp only
  rw [divCore]
  generalize ht : min (e - f) (Format.binary64.targetExponent
    (totalExponent m e - totalExponent n f)) = t
  obtain ⟨k, hk⟩ := Int.eq_ofNat_of_zero_le (a := e - f - t) (by omega)
  have hcount : (e - f - t).toNat = k := by omega
  dsimp only
  rw [hcount, Nat.shiftLeft_eq]
  have hmpos : (0 : ℚ) < m := by exact_mod_cast hm
  have hnpos : (0 : ℚ) < n := by exact_mod_cast hn
  refine ⟨(m * 2 ^ k : ℕ) / n, by positivity, ?_, ?_, ?_⟩
  · have hkeeps := keeps_fraction (m * 2 ^ k / n) (m * 2 ^ k % n) n (Nat.mod_lt _ hn)
    convert hkeeps using 1
    have hdivmod : ((m * 2 ^ k : ℕ) : ℚ) = n * (m * 2 ^ k / n : ℕ) + (m * 2 ^ k % n : ℕ) := by
      exact_mod_cast (Nat.div_add_mod (m * 2 ^ k) n).symm
    rw [hdivmod]
    field_simp
  · rw [show e = f + t + k by omega, zpow_add₀ (by norm_num), zpow_add₀ (by norm_num), zpow_natCast]
    push_cast
    field_simp
  · rw [Format.targetExponent, totalExponent, totalExponent,
      show Format.binary64.minExponent = -1074 from rfl,
      show (Format.binary64.mantissaBits : ℤ) = 53 from rfl] at ht
    by_cases hsmall : t ≤ -1074
    · exact Or.inr hsmall
    · left
      -- the shift makes the dividend longer than the divisor by enough bits
      have hlong : n.log2 + 53 ≤ m.log2 + k := by omega
      have hmlow : 2 ^ m.log2 ≤ m := Nat.log2_self_le hm.ne'
      have hnhigh : n ≤ 2 ^ (n.log2 + 1) := Nat.lt_log2_self.le
      have hquotient : 2 ^ 52 ≤ m * 2 ^ k / n := by
        rw [Nat.le_div_iff_mul_le hn]
        calc 2 ^ 52 * n ≤ 2 ^ 52 * 2 ^ (n.log2 + 1) := Nat.mul_le_mul_left _ hnhigh
          _ = 2 ^ (n.log2 + 53) := by rw [← pow_add]; congr 1; omega
          _ ≤ 2 ^ (m.log2 + k) := Nat.pow_le_pow_right (by norm_num) hlong
          _ = 2 ^ m.log2 * 2 ^ k := pow_add 2 _ _
          _ ≤ m * 2 ^ k := Nat.mul_le_mul_right _ hmlow
      rw [Nat.le_log2 (by omega)]
      exact hquotient

/-- **Division** is exact division, rounded. -/
theorem rounded_div {x y : Float} {p q : ℚ} (hx : number? x = some p) (hy : number? y = some q)
    (hq : q ≠ 0) : Rounded (x / y) (p / q) := by
  have hdiv : x / y = .ofModel
      (.pack (UnpackedFloat.div Format.binary64 x.toModel.unpack y.toModel.unpack)) := rfl
  rw [hdiv]
  obtain ⟨s, hux, rfl⟩ | ⟨s, m, e, hm, hux, rfl, -⟩ := unpack_of_number? hx <;>
    obtain ⟨t, huy, rfl⟩ | ⟨t, n, f, hn, huy, rfl, -⟩ := unpack_of_number? hy <;>
    rw [hux, huy, UnpackedFloat.div]
  · exact absurd rfl hq
  · rw [zero_div]
    exact rounded_zero (number?_pack_zero _)
  · exact absurd rfl hq
  · obtain ⟨r, hr, hkeeps, hvalue, hbits⟩ := divCore_spec hm hn e f
    have hrounded := rounded_roundWithAccuracy (s / t) hkeeps hr hbits
    convert hrounded using 1
    rw [hvalue, isNegative_div, signed_xor]
    cases t <;> simp [isNegative, div_neg, mul_div_assoc]

/-! ### Whole numbers -/

/-- A rounding that is small enough is a number. -/
theorem number?_of_rounded {x : Float} {q : ℚ} (h : Rounded x q)
    (hsmall : |nearest q| < 2 ^ 1024) : number? x = some (nearest q) := by
  rwa [Rounded, if_pos hsmall] at h

/-- Whole numbers below `2 ^ 53` come out of an operation as they are. -/
theorem number?_of_rounded_natCast {x : Float} {n : ℕ} (h : Rounded x n) (hn : n < 2 ^ 53) :
    number? x = some (n : ℚ) := by
  have hexact : nearest (n : ℚ) = n := by
    have habs : |(n : ℤ)| < 2 ^ 53 := by
      rw [abs_of_nonneg (by positivity)]
      exact_mod_cast hn
    exact_mod_cast nearest_intCast habs
  have hbig : |(n : ℚ)| < 2 ^ 1024 := by
    have hcast : (n : ℚ) < 2 ^ 53 := by exact_mod_cast hn
    rw [abs_of_nonneg (by positivity)]
    exact hcast.trans_le (pow_le_pow_right₀ (by norm_num) (by norm_num))
  have hnumber := number?_of_rounded h (by rwa [hexact])
  rwa [hexact] at hnumber

/-- A 16-bit word is a double as it is. -/
theorem number?_toFloat (word : UInt16) : number? word.toFloat = some (word.toNat : ℚ) := by
  have hword : word.toFloat =
      .ofModel (.pack (UnpackedFloat.normalize Format.binary64 (word.toNat : ℤ) 0 .positive)) := rfl
  have hrounded := rounded_normalize (word.toNat : ℤ) 0
  rw [← hword, zpow_zero, mul_one] at hrounded
  have hlt := word.toNat_lt
  refine number?_of_rounded_natCast ?_ (by omega)
  exact_mod_cast hrounded

end PegBox.Binary64
