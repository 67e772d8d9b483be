/-
**Larger readings have larger thresholds.**

A midpoint is a product, a sum and a quotient, each rounded on its own, and any of them may
overflow.  Among the extended numbers all of that is one function of the exact product and the high:
the rounding of the product is carried through the sum and through the quotient.  Every step of it
keeps the order, the last one because the divisor is positive.  So a midpoint grows with the high,
and it follows the low as the product with the weight does: upwards for the weights above zero and
downwards for those between minus one and zero.  Truncations and thresholds follow the midpoints.

Main definitions:

* `PegBox.weightedValue` — the midpoint of two numbers among the extended ones;
* `PegBox.InOrder` — **two midpoints in order**, with their truncations and thresholds.

Main results:

* `PegBox.MidpointOf.value?_eq` — a midpoint stands for its weighted value, whichever operation
  overflows;
* `PegBox.weightedValue_le` — **the order of weighted values**;
* `PegBox.inOrder_of_le` — truncations and thresholds follow the doubles that they are made of;
* `PegBox.Calibration.midpoints_in_order` — **the midpoints follow the readings**.
-/

import PegBox.Proofs.Binary64.Order
import PegBox.Proofs.Storing
import PegBox.Proofs.WeightedMidpoint

set_option autoImplicit false

namespace PegBox

open Binary64

variable {calibration : Calibration} {w d high high' low low' : ℚ} {mid lower upper : Float}

/-! ### The midpoint among the extended numbers -/

/-- The midpoint of two numbers among the extended ones. -/
def weightedValue (w d high low : ℚ) : WithBotTop ℚ :=
  carry (fun sum => rounding (sum / d))
    (carry (fun product => rounding (high + product)) (rounding (w * low)))

/-- A midpoint stands for its weighted value, whichever operation overflows. -/
theorem MidpointOf.value?_eq (h : MidpointOf w d high low mid) :
    value? mid = some (weightedValue w d high low) := by
  rw [weightedValue]
  cases h with
  | productOverflows hproduct hmid =>
      rw [rounding_of_large hproduct, carry_infiniteValue, carry_infiniteValue]
      exact value?_of_infinite hmid
  | sumOverflows hproduct hsum hmid =>
      rw [rounding_of_small hproduct, carry_number, rounding_of_large hsum, carry_infiniteValue]
      exact value?_of_infinite hmid
  | divided hproduct hsum hmid =>
      rw [rounding_of_small hproduct, carry_number, rounding_of_small hsum, carry_number]
      exact hmid.value?_eq

/-- **The order of weighted values** is that of the highs and of the products. -/
theorem weightedValue_le (hd : 0 < d) (hhigh : high ≤ high') (hproduct : w * low ≤ w * low') :
    weightedValue w d high low ≤ weightedValue w d high' low' := by
  have hquotient : Monotone fun sum : ℚ => rounding (sum / d) := by
    intro p q hpq
    exact rounding_mono (div_le_div_of_nonneg_right hpq hd.le)
  have hsum : Monotone fun product : ℚ => rounding (high + product) := by
    intro p q hpq
    exact rounding_mono (add_le_add_right hpq high)
  refine carry_le_carry hquotient (fun _ => le_rfl) ?_
  refine carry_le_carry hsum (fun product => ?_) (rounding_mono hproduct)
  exact rounding_mono (add_le_add_left hhigh product)

/-- The midpoints of numbers are in the order of their weighted values. -/
theorem Calibration.Weighs.midpoint_le (hc : calibration.Weighs w d)
    {highReading highReading' lowReading lowReading' : Float}
    (hhigh : number? highReading = some high) (hhigh' : number? highReading' = some high')
    (hlow : number? lowReading = some low) (hlow' : number? lowReading' = some low')
    (hle : high ≤ high') (hproduct : w * low ≤ w * low') :
    calibration.midpoint highReading lowReading ≤
      calibration.midpoint highReading' lowReading' := by
  rw [le_iff_value?]
  exact ⟨_, _, (hc.midpointOf hhigh hlow).value?_eq, (hc.midpointOf hhigh' hlow').value?_eq,
    weightedValue_le hc.divisor_pos hle hproduct⟩

/-! ### Truncations and thresholds -/

/-- **Two midpoints in order**: the extended numbers that they stand for are in order, and so are
their truncations, and the thresholds where the box can store both. -/
structure InOrder (lower upper : Float) : Prop where
  value_le : ∃ a b, value? lower = some a ∧ value? upper = some b ∧ a ≤ b
  truncate_le : truncate lower ≤ truncate upper
  thresholds_le : Storable lower → Storable upper → ∀ peg, ∃ word word' : UInt16,
    thresholdOfMidpoint peg lower = .ok word ∧ thresholdOfMidpoint peg upper = .ok word' ∧
      word ≤ word'

theorem storedWord_le (hlower : Storable lower) (hupper : Storable upper)
    (h : truncate lower ≤ truncate upper) : storedWord lower ≤ storedWord upper := by
  rw [UInt16.le_iff_toNat_le]
  rw [← toNat_storedWord hlower, ← toNat_storedWord hupper] at h
  exact_mod_cast h

/-- Truncations and thresholds follow the doubles that they are made of. -/
theorem inOrder_of_le (h : lower ≤ upper) : InOrder lower upper where
  value_le := le_iff_value?.1 h
  truncate_le := truncate_mono h
  thresholds_le hlower hupper peg :=
    ⟨storedWord lower, storedWord upper, thresholdOfMidpoint_of_storable peg hlower,
      thresholdOfMidpoint_of_storable peg hupper, storedWord_le hlower hupper (truncate_mono h)⟩

/-! ### The midpoints of readings in order -/

theorem number?_zero : number? 0 = some 0 := by
  have hdecode : decode (0 : Float) = .finite false 0 (-1074) := by decide
  rw [number?_of_decode hdecode]
  norm_num

/-- **The midpoints follow the readings**, for every weight that is accepted and all finite
readings: they grow with the high; they grow with the low where the weight is zero or more, and fall
with it where the weight is zero or less.  Truncations, and thresholds where there are any, follow
them, as they follow any two doubles in order. -/
theorem Calibration.midpoints_in_order {weight : Float}
    (hweight : Calibration.ofWeight? weight = some calibration) :
    (∀ high high' low : Float, high.isFinite = true → high'.isFinite = true →
        low.isFinite = true → high ≤ high' →
        InOrder (calibration.midpoint high low) (calibration.midpoint high' low)) ∧
      (∀ high low low' : Float, high.isFinite = true → low.isFinite = true →
        low'.isFinite = true → 0 ≤ weight → low ≤ low' →
        InOrder (calibration.midpoint high low) (calibration.midpoint high low')) ∧
      (∀ high low low' : Float, high.isFinite = true → low.isFinite = true →
        low'.isFinite = true → weight ≤ 0 → low ≤ low' →
        InOrder (calibration.midpoint high low') (calibration.midpoint high low)) ∧
      ∀ lower upper : Float, lower ≤ upper → InOrder lower upper := by
  obtain ⟨⟨w, hw, hlt⟩, rfl⟩ := (Calibration.ofWeight?_eq_some_iff weight).1 hweight
  have hweighs := Calibration.weighs_of_lt hw hlt
  refine ⟨?_, ?_, ?_, fun lower upper => inOrder_of_le⟩
  · intro high high' low hhigh hhigh' hlow hle
    obtain ⟨p, hp⟩ := (isFinite_iff _).1 hhigh
    obtain ⟨p', hp'⟩ := (isFinite_iff _).1 hhigh'
    obtain ⟨q, hq⟩ := (isFinite_iff _).1 hlow
    rw [le_iff hp hp'] at hle
    exact inOrder_of_le (hweighs.midpoint_le hp hp' hq hq hle le_rfl)
  · intro high low low' hhigh hlow hlow' hnonneg hle
    obtain ⟨p, hp⟩ := (isFinite_iff _).1 hhigh
    obtain ⟨q, hq⟩ := (isFinite_iff _).1 hlow
    obtain ⟨q', hq'⟩ := (isFinite_iff _).1 hlow'
    rw [le_iff hq hq'] at hle
    rw [le_iff number?_zero hw] at hnonneg
    exact inOrder_of_le
      (hweighs.midpoint_le hp hp hq hq' le_rfl (mul_le_mul_of_nonneg_left hle hnonneg))
  · intro high low low' hhigh hlow hlow' hnonpos hle
    obtain ⟨p, hp⟩ := (isFinite_iff _).1 hhigh
    obtain ⟨q, hq⟩ := (isFinite_iff _).1 hlow
    obtain ⟨q', hq'⟩ := (isFinite_iff _).1 hlow'
    rw [le_iff hq hq'] at hle
    rw [le_iff hw number?_zero] at hnonpos
    exact inOrder_of_le
      (hweighs.midpoint_le hp hp hq' hq le_rfl (mul_le_mul_of_nonpos_left hle hnonpos))

/-- A weight of four, across an overflow, and a weight of minus one half, where the larger low makes
the smaller threshold. -/
theorem Calibration.midpoints_in_order_across_overflow :
    ∃ steep flat : Calibration, Calibration.ofWeight? 4 = some steep ∧
      Calibration.ofWeight? (.ofBits 0xBFE0000000000000) = some flat ∧
      InOrder (steep.midpoint 833 40) (steep.midpoint 837 40) ∧
      InOrder (steep.midpoint 1 (.ofBits 0x7FC0000000000000))
        (steep.midpoint 1 (.ofBits 0x7FD0000000000000)) ∧
      decode (steep.midpoint 1 (.ofBits 0x7FD0000000000000)) = .infinite false ∧
      InOrder (flat.midpoint 833 40) (flat.midpoint 833 34) ∧
      thresholdOfMidpoint 0 (flat.midpoint 833 40) = .ok 1626 ∧
      thresholdOfMidpoint 0 (flat.midpoint 833 34) = .ok 1632 ∧
      InOrder 1626 1632 := by
  have hsteep : Calibration.ofWeight? 4 = some ⟨4, 4 + 1⟩ := by decide +kernel
  have hflat : Calibration.ofWeight? (.ofBits 0xBFE0000000000000) =
      some ⟨.ofBits 0xBFE0000000000000, .ofBits 0xBFE0000000000000 + 1⟩ := by decide +kernel
  obtain ⟨hhigh, hup, -, -⟩ := Calibration.midpoints_in_order hsteep
  obtain ⟨-, -, hdown, hall⟩ := Calibration.midpoints_in_order hflat
  refine ⟨_, _, hsteep, hflat, ?_, ?_, by decide +kernel, ?_, rfl, rfl,
    hall _ _ (by decide +kernel)⟩
  · exact hhigh 833 837 40 (by decide +kernel) (by decide +kernel) (by decide +kernel)
      (by decide +kernel)
  · exact hup 1 (.ofBits 0x7FC0000000000000) (.ofBits 0x7FD0000000000000) (by decide +kernel)
      (by decide +kernel) (by decide +kernel) (by decide +kernel) (by decide +kernel)
  · exact hdown 833 34 40 (by decide +kernel) (by decide +kernel) (by decide +kernel)
      (by decide +kernel) (by decide +kernel)

end PegBox
