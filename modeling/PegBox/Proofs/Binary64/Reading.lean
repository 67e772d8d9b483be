/-
**The number that a double stands for.**

The reading of a double takes its bits apart by division; arithmetic works on unpacked doubles and
packs its results.  This module ties the two together: what an operation sees of a double is its
reading, and the reading of a packed result is the result, or infinite where the exponent is too
large.  A finite reading stands for a rational number.

Main definitions:

* `PegBox.Binary64.readUnpacked` — the reading of an unpacked double;
* `PegBox.Binary64.Decoded.number?`, `PegBox.Binary64.number?` — **the number that a double stands
  for**.

Main results:

* `PegBox.Binary64.decode_eq_readUnpacked` — what an operation sees of a double is its reading;
* `PegBox.Binary64.decode_pack_finite` — the reading of a packed result;
* `PegBox.Binary64.isFinite_iff` — the finite doubles are those that stand for a number;
* `PegBox.Binary64.truncate_of_number?` — a truncation drops the fraction of that number.
-/

import Mathlib
import PegBox.Binary64

set_option autoImplicit false

namespace PegBox.Binary64

open Float.Model Float.Model.UnpackedFloat

/-! ### The fields of a double -/

theorem toNat_unpackMantissa (bits : BitVec Format.binary64.numBits) :
    (unpackMantissa bits).toNat = bits.toNat % fractionBound := by
  simp [unpackMantissa, BitVec.extractLsb_toNat, fractionBound]

theorem toNat_unpackExponent (bits : BitVec Format.binary64.numBits) :
    (unpackExponent bits).toNat = bits.toNat / fractionBound % 2048 := by
  simp [unpackExponent, BitVec.extractLsb_toNat, Nat.shiftRight_eq_div_pow, fractionBound]

theorem toNat_unpackSign (bits : BitVec Format.binary64.numBits) :
    (unpackSign bits).toNat = bits.toNat / 2 ^ 63 % 2 := by
  simp [unpackSign, BitVec.extractLsb_toNat, Nat.shiftRight_eq_div_pow]

/-- Whether a sign is that of the numbers below zero. -/
def isNegative : Sign → Bool
  | .negative => true
  | .positive => false

theorem isNegative_ofBitVec (bit : BitVec 1) :
    isNegative (Sign.ofBitVec bit) = decide (bit.toNat = 1) := by
  revert bit
  decide

theorem toNat_packComponents (sign : Sign) (field : BitVec 11) (fraction : BitVec 52) :
    (packComponents Format.binary64 sign field fraction).toNat =
      (if isNegative sign then 2 ^ 63 else 0) + field.toNat * 2 ^ 52 + fraction.toNat := by
  have hfraction := fraction.isLt
  have hfield := field.isLt
  rw [packComponents, BitVec.toNat_append, BitVec.toNat_append,
    ← Nat.shiftLeft_add_eq_or_of_lt hfraction, ← Nat.shiftLeft_add_eq_or_of_lt hfield,
    Nat.shiftLeft_eq, Nat.shiftLeft_eq]
  cases sign <;> simp [Sign.toBitVec, isNegative]
  omega

/-! ### Unpacked doubles -/

/-- The reading of an unpacked double. -/
def readUnpacked : UnpackedFloat → Decoded
  | .notANumber => .nan
  | .infinity sign => .infinite (isNegative sign)
  | .zero sign => .finite (isNegative sign) 0 (-1074)
  | .finite sign significand exponent _ => .finite (isNegative sign) significand exponent

/-- What an operation sees of a double is its reading. -/
theorem decode_eq_readUnpacked (x : Float) : decode x = readUnpacked x.toModel.unpack := by
  set bits : BitVec Format.binary64.numBits := x.toModel.toBits.toBitVec with hbits
  have htoNat : x.toBits.toNat = bits.toNat := rfl
  have hlt : bits.toNat < 2 ^ 64 := bits.isLt
  have hsign : isNegative (Sign.ofBitVec (unpackSign bits)) = decide (2 ^ 63 ≤ bits.toNat) := by
    rw [isNegative_ofBitVec, toNat_unpackSign]
    congr 1
    apply propext
    omega
  have hmax : unpackExponent bits = -1#_ ↔ bits.toNat / fractionBound % 2048 = 2047 := by
    rw [← toNat_unpackExponent, ← BitVec.toNat_inj]
    simp
  have hmin : unpackExponent bits = 0#_ ↔ bits.toNat / fractionBound % 2048 = 0 := by
    rw [← toNat_unpackExponent, ← BitVec.toNat_inj]
    simp
  have hnone : unpackMantissa bits = 0#_ ↔ bits.toNat % fractionBound = 0 := by
    rw [← toNat_unpackMantissa, ← BitVec.toNat_inj]
    simp
  have himplicit : (1#1 ++ unpackMantissa bits).toNat =
      fractionBound + bits.toNat % fractionBound := by
    rw [← toNat_unpackMantissa, BitVec.toNat_append,
      ← Nat.shiftLeft_add_eq_or_of_lt (unpackMantissa bits).isLt]
    rfl
  have hbias : Format.binary64.exponentBias = 1023 := rfl
  rw [Float.Model.unpack, ← hbits, UnpackedFloat.unpack, decode, htoNat]
  simp only [hmax, hmin, hnone, hbias]
  -- the cases are those of the exponent field, and of the fraction where the field is extreme
  by_cases htop : bits.toNat / fractionBound % 2048 = 2047
  · rw [if_pos htop, if_pos htop]
    by_cases hzero : bits.toNat % fractionBound = 0
    · rw [if_pos hzero, if_pos hzero, readUnpacked, hsign]
      rfl
    · rw [if_neg hzero, if_neg hzero, readUnpacked]
  · rw [if_neg htop, if_neg htop]
    by_cases hbottom : bits.toNat / fractionBound % 2048 = 0
    · rw [if_pos hbottom, if_pos hbottom]
      by_cases hzero : bits.toNat % fractionBound = 0
      · rw [dif_pos hzero, hzero, readUnpacked, hsign]
        rfl
      · rw [dif_neg hzero, readUnpacked, hsign, toNat_unpackMantissa, toNat_unpackExponent, hbottom]
        rfl
    · rw [if_neg hbottom, if_neg hbottom, readUnpacked, hsign, himplicit, toNat_unpackExponent]
      rfl

/-- A finite reading is a whole number of units: the significand has at most fifty-three bits, and
all of them are used unless the unit is the smallest one. -/
theorem bounds_of_decode {x : Float} {negative : Bool} {significand : ℕ} {exponent : ℤ}
    (h : decode x = .finite negative significand exponent) :
    significand < 2 ^ 53 ∧ -1074 ≤ exponent ∧ exponent ≤ 971 ∧
      (2 ^ 52 ≤ significand ∨ exponent = -1074) := by
  have hfraction : x.toBits.toNat % fractionBound < fractionBound := Nat.mod_lt _ (by decide)
  have hbound : fractionBound = 2 ^ 52 := rfl
  unfold decode at h
  dsimp only at h
  split at h
  · split at h <;> cases h
  · split at h <;> cases h <;> omega

/-! ### Packed results -/

/-- The reading of a double whose fields are known. -/
theorem decode_of_toNat {x : Float} {negative : Bool} {field fraction : ℕ}
    (hfield : field < 2048) (hfraction : fraction < 2 ^ 52)
    (h : x.toBits.toNat = (if negative then 2 ^ 63 else 0) + field * 2 ^ 52 + fraction) :
    decode x =
      if field = 2047 then if fraction = 0 then .infinite negative else .nan
      else if field = 0 then .finite negative fraction (-1074)
      else .finite negative (fractionBound + fraction) ((field : ℤ) - 1075) := by
  have hbound : fractionBound = 2 ^ 52 := rfl
  have hhigh : x.toBits.toNat / fractionBound % 2048 = field := by
    rw [h, hbound]
    split <;> omega
  have hlow : x.toBits.toNat % fractionBound = fraction := by
    rw [h, hbound]
    split <;> omega
  have hsign : decide (Nat.pow 2 63 ≤ x.toBits.toNat) = negative := by
    rw [h, Nat.pow_eq]
    cases negative <;> simp <;> omega
  unfold decode
  dsimp only
  rw [hhigh, hlow, hsign]

/-- The reading of a packed result: a number that lies on the grid, or infinite where its exponent
is too large. -/
theorem decode_pack_finite (sign : Sign) {significand : ℕ} {exponent : ℤ}
    (hpos : 0 < significand) (hlt : significand < 2 ^ 53) (hmin : -1074 ≤ exponent)
    (hnormal : 2 ^ 52 ≤ significand ∨ exponent = -1074) :
    decode (.ofModel (.pack (.finite sign significand exponent hpos))) =
      if 972 ≤ exponent then .infinite (isNegative sign)
      else .finite (isNegative sign) significand exponent := by
  have hbits : (Float.ofModel (.pack (.finite sign significand exponent hpos))).toBits.toNat =
      (UnpackedFloat.pack Format.binary64 (.finite sign significand exponent hpos)).toNat := rfl
  have hbias : (exponent + Format.binary64.exponentBias +
      Format.binary64.mantissaBitsWithoutImplicit).toNat = (exponent + 1075).toNat := by
    have : Format.binary64.exponentBias = 1023 := rfl
    rw [this]
    push_cast
    ring_nf
  have hwidth : significand.log2 + 1 = Format.binary64.mantissaBits ↔ 2 ^ 52 ≤ significand := by
    have h52 := Nat.le_log2 (k := 52) hpos.ne'
    have h53 := Nat.le_log2 (k := 53) hpos.ne'
    rw [show Format.binary64.mantissaBits = 53 from rfl]
    omega
  rw [UnpackedFloat.pack] at hbits
  simp only [hbias, hwidth] at hbits
  by_cases hbig : 972 ≤ exponent
  · rw [if_pos hbig]
    rw [if_pos (by omega), packedInfinity, toNat_packComponents] at hbits
    exact decode_of_toNat (by decide) (by decide) hbits
  · rw [if_neg hbig]
    rw [if_neg (by omega)] at hbits
    by_cases h52 : 2 ^ 52 ≤ significand
    · rw [if_pos h52, toNat_packComponents, BitVec.toNat_ofNat, BitVec.toNat_ofNat,
        Nat.mod_eq_of_lt (by omega)] at hbits
      rw [decode_of_toNat (by omega) (Nat.mod_lt _ (by decide)) hbits, if_neg (by omega),
        if_neg (by omega)]
      have hbound : fractionBound = 2 ^ 52 := rfl
      congr 1 <;> omega
    · rw [if_neg h52, toNat_packComponents, BitVec.toNat_ofNat, BitVec.toNat_ofNat,
        Nat.mod_eq_of_lt (a := significand) (by omega)] at hbits
      rw [decode_of_toNat (by decide) (by omega) hbits, if_neg (by decide), if_pos (by decide),
        hnormal.resolve_left h52]

theorem decode_pack_zero (sign : Sign) :
    decode (.ofModel (.pack (.zero sign))) = .finite (isNegative sign) 0 (-1074) := by
  cases sign <;> decide

/-! ### Numbers -/

/-- One, with a sign. -/
def signed (negative : Bool) : ℚ := if negative then -1 else 1

@[simp]
theorem signed_true : signed true = -1 := rfl

@[simp]
theorem signed_false : signed false = 1 := rfl

/-- The number that a reading stands for, if it stands for one. -/
def Decoded.number? : Decoded → Option ℚ
  | .finite negative significand exponent => some (signed negative * (significand * 2 ^ exponent))
  | _ => none

/-- **The number that a double stands for**, if it stands for one. -/
def number? (x : Float) : Option ℚ := (decode x).number?

theorem number?_of_decode {x : Float} {negative : Bool} {significand : ℕ} {exponent : ℤ}
    (h : decode x = .finite negative significand exponent) :
    number? x = some (signed negative * (significand * 2 ^ exponent)) := by
  rw [number?, h, Decoded.number?]

theorem exists_decode_of_number? {x : Float} {q : ℚ} (h : number? x = some q) :
    ∃ negative significand exponent, decode x = .finite negative significand exponent ∧
      q = signed negative * (significand * 2 ^ exponent) := by
  rw [number?] at h
  cases hx : decode x with
  | nan => simp [hx, Decoded.number?] at h
  | infinite negative => simp [hx, Decoded.number?] at h
  | finite negative significand exponent =>
      rw [hx, Decoded.number?, Option.some_inj] at h
      exact ⟨negative, significand, exponent, rfl, h.symm⟩

/-- The finite doubles are those that stand for a number. -/
theorem isFinite_iff (x : Float) : x.isFinite = true ↔ ∃ q, number? x = some q := by
  rw [number?, decode_eq_readUnpacked, Float.isFinite, Float.Model.isFinite]
  cases x.toModel.unpack <;> simp [UnpackedFloat.isFinite, readUnpacked, Decoded.number?]

/-- What an operation sees of a double that stands for a number: a zero, or a number on the grid. -/
theorem unpack_of_number? {x : Float} {q : ℚ} (h : number? x = some q) :
    (∃ sign, x.toModel.unpack = .zero sign ∧ q = 0) ∨
      ∃ sign significand exponent hpos,
        x.toModel.unpack = .finite sign significand exponent hpos ∧
        q = signed (isNegative sign) * (significand * 2 ^ exponent) ∧
        significand < 2 ^ 53 ∧ -1074 ≤ exponent ∧ exponent ≤ 971 ∧
        (2 ^ 52 ≤ significand ∨ exponent = -1074) := by
  have hread := decode_eq_readUnpacked x
  rw [number?, hread] at h
  cases hx : x.toModel.unpack with
  | infinity sign => simp [hx, readUnpacked, Decoded.number?] at h
  | notANumber => simp [hx, readUnpacked, Decoded.number?] at h
  | zero sign =>
      left
      rw [hx, readUnpacked, Decoded.number?, Option.some_inj] at h
      exact ⟨sign, rfl, by rw [← h]; simp⟩
  | finite sign significand exponent hpos =>
      right
      rw [hx, readUnpacked, Decoded.number?, Option.some_inj] at h
      rw [hx, readUnpacked] at hread
      exact ⟨sign, significand, exponent, hpos, rfl, h.symm, bounds_of_decode hread⟩

/-! ### Truncation -/

/-- The whole part of a magnitude. -/
theorem wholePart_eq_floor (significand : ℕ) (exponent : ℤ) :
    (wholePart significand exponent : ℤ) = ⌊(significand : ℚ) * 2 ^ exponent⌋ := by
  unfold wholePart
  split
  · next h =>
    obtain ⟨k, rfl⟩ := Int.eq_ofNat_of_zero_le h
    have : (significand : ℚ) * 2 ^ (k : ℤ) = ((significand * 2 ^ k : ℕ) : ℤ) := by
      push_cast
      rw [zpow_natCast]
    rw [this, Int.floor_intCast]
    rfl
  · next h =>
    obtain ⟨k, hk⟩ := Int.eq_ofNat_of_zero_le (by omega : 0 ≤ -exponent)
    have : (significand : ℚ) * 2 ^ exponent = (significand : ℚ) / ((2 ^ k : ℕ) : ℚ) := by
      rw [show exponent = -(k : ℤ) by omega, zpow_neg, zpow_natCast]
      push_cast
      rfl
    rw [this, Rat.floor_natCast_div_natCast, hk]
    rfl

/-- A truncation drops the fraction of the number that a double stands for. -/
theorem truncate_of_number? {x : Float} {q : ℚ} (h : number? x = some q) :
    truncate x = clampToWord (if 0 ≤ q then ⌊q⌋ else ⌈q⌉) := by
  obtain ⟨negative, significand, exponent, hx, rfl⟩ := exists_decode_of_number? h
  have hmagnitude : (0 : ℚ) ≤ significand * 2 ^ exponent := by positivity
  rw [truncate, hx]
  dsimp only
  congr 1
  cases negative with
  | false =>
      rw [signed_false, one_mul, if_pos hmagnitude, ← wholePart_eq_floor]
      rfl
  | true =>
      rw [signed_true, neg_one_mul, withSign, if_pos rfl, wholePart_eq_floor]
      split
      · next hneg =>
        have hzero : (significand : ℚ) * 2 ^ exponent = 0 := by linarith
        rw [hzero]
        simp
      · rw [Int.ceil_neg]

end PegBox.Binary64
