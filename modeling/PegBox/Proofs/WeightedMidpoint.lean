/-
**Midpoints are never undefined.**

A midpoint takes three operations on doubles, and each of them may overflow.  An overflow in the
product or in the sum is carried to the end: neither a number that is added to an infinity nor a
division by a positive number changes its side.  So all that a midpoint needs is a weight and a
divisor that are numbers, the divisor positive.  A weight above minus one provides it.  The sum of
the weight and one is a positive whole number of smallest units, and such a number neither rounds to
zero nor, as long as it is one away from a double, beyond the largest double.

Main definitions:

* `PegBox.Calibration.Weighs` — the numbers of a calibration that can weigh all readings;
* `PegBox.MidpointOf` — **how a midpoint comes about**: which operation overflows, if one does.

Main results:

* `PegBox.Calibration.Weighs.midpointOf` — every pair of numbers has such a midpoint;
* `PegBox.Calibration.weighs_of_lt` — a weight above minus one has a finite positive divisor;
* `PegBox.Calibration.ofWeight?_eq_some_iff` — these are the weights that have a calibration;
* `PegBox.Calibration.accepted_weights_defined` — **no weight that is accepted leaves a midpoint
  undefined**.
-/

import PegBox.Calibration
import PegBox.Proofs.Binary64.Accuracy
import PegBox.Proofs.Binary64.Extended

set_option autoImplicit false

namespace PegBox

open Binary64

variable {calibration : Calibration} {w d high low : ℚ}

/-! ### The midpoint of two numbers -/

/-- The numbers of a calibration that can weigh all readings: a weight `w`, and a divisor `d` above
zero. -/
structure Calibration.Weighs (calibration : Calibration) (w d : ℚ) : Prop where
  lowWeight : number? calibration.lowWeight = some w
  divisor : number? calibration.divisor = some d
  divisor_pos : 0 < d

/-- **How a midpoint comes about**: the first operation that overflows decides on the infinity;
where none does before the quotient, the quotient is rounded. -/
inductive MidpointOf (w d high low : ℚ) (mid : Float) : Prop where
  | productOverflows (hproduct : 2 ^ 1024 ≤ |nearest (w * low)|)
      (hmid : decode mid = .infinite (decide (w * low < 0)))
  | sumOverflows (hproduct : |nearest (w * low)| < 2 ^ 1024)
      (hsum : 2 ^ 1024 ≤ |nearest (high + nearest (w * low))|)
      (hmid : decode mid = .infinite (decide (high + nearest (w * low) < 0)))
  | divided (hproduct : |nearest (w * low)| < 2 ^ 1024)
      (hsum : |nearest (high + nearest (w * low))| < 2 ^ 1024)
      (hmid : Rounded mid (nearest (high + nearest (w * low)) / d))

/-- A midpoint is a number or an infinity, whichever way it comes about. -/
theorem MidpointOf.isNaN_eq_false {mid : Float} (h : MidpointOf w d high low mid) :
    mid.isNaN = false := by
  cases h with
  | productOverflows _ hmid => exact isNaN_of_infinite hmid
  | sumOverflows _ _ hmid => exact isNaN_of_infinite hmid
  | divided _ _ hmid => exact hmid.isNaN_eq_false

/-- **Every pair of numbers has a midpoint.** -/
theorem Calibration.Weighs.midpointOf (hc : calibration.Weighs w d) {highReading lowReading : Float}
    (hhigh : number? highReading = some high) (hlow : number? lowReading = some low) :
    MidpointOf w d high low (calibration.midpoint highReading lowReading) := by
  have hproduct := rounded_mul hc.lowWeight hlow
  rw [Calibration.midpoint]
  by_cases hp : |nearest (w * low)| < 2 ^ 1024
  · have hsum := rounded_add hhigh (number?_of_rounded hproduct hp)
    by_cases hs : |nearest (high + nearest (w * low))| < 2 ^ 1024
    · exact .divided hp hs
        (rounded_div (number?_of_rounded hsum hs) hc.divisor hc.divisor_pos.ne')
    · rw [Rounded, if_neg hs] at hsum
      exact .sumOverflows hp (not_lt.1 hs) (decode_infinite_div hsum hc.divisor hc.divisor_pos)
  · rw [Rounded, if_neg hp] at hproduct
    have hsum := decode_add_infinite hhigh hproduct
    exact .productOverflows (not_lt.1 hp) (decode_infinite_div hsum hc.divisor hc.divisor_pos)

/-! ### The midpoints of a reading set -/

/-- The readings of a reading set stand for numbers. -/
theorem ReadingSet.exists_numbers (set : ReadingSet) {reading : PegId × Float × Float}
    (h : reading ∈ set.pegs) :
    ∃ high low, number? reading.2.1 = some high ∧ number? reading.2.2 = some low := by
  obtain ⟨-, -, hhighs, hlows⟩ := (pairingFault?_eq_none_iff _ _).1 set.paired
  obtain ⟨index, hindex, rfl⟩ := List.mem_mapIdx.1 h
  have hpair := List.of_mem_zip (List.getElem_mem hindex)
  obtain ⟨high, hhigh⟩ := (isFinite_iff _).1 (hhighs _ hpair.1)
  obtain ⟨low, hlow⟩ := (isFinite_iff _).1 (hlows _ hpair.2)
  exact ⟨high, low, hhigh, hlow⟩

theorem Calibration.Weighs.isNaN_of_mem_apply (hc : calibration.Weighs w d) {set : ReadingSet}
    {mid : Float} (h : mid ∈ calibration.apply set) : mid.isNaN = false := by
  obtain ⟨reading, hreading, rfl⟩ := List.mem_map.1 h
  obtain ⟨high, low, hhigh, hlow⟩ := set.exists_numbers hreading
  exact (hc.midpointOf hhigh hlow).isNaN_eq_false

/-- What `compute` answers are the midpoints of a reading set. -/
theorem Calibration.exists_of_compute {highs lows mids : List Float}
    (h : calibration.compute highs lows = .ok mids) :
    ∃ set : ReadingSet, ReadingSet.ofLists highs lows = .ok set ∧ calibration.apply set = mids := by
  rw [Calibration.compute_ofLists] at h
  cases hset : ReadingSet.ofLists highs lows with
  | error fault =>
      rw [hset] at h
      cases h
  | ok set =>
      rw [hset] at h
      cases h
      exact ⟨set, rfl, rfl⟩

/-! ### The weights that have a calibration -/

theorem number?_one : number? 1 = some 1 := by
  have hdecode : decode (1 : Float) = .finite false (2 ^ 52) (-52) := by decide
  rw [number?_of_decode hdecode]
  norm_num

theorem number?_neg_one : number? (-1) = some (-1) := by
  have hdecode : decode (-1 : Float) = .finite true (2 ^ 52) (-52) := by decide
  rw [number?_of_decode hdecode]
  norm_num

/-- The sum of a double and one does not overflow. -/
theorem abs_nearest_add_one_lt {weight : Float} (hw : number? weight = some w) :
    |nearest (w + 1)| < 2 ^ 1024 := by
  have habs := (abs_add_le w 1).trans (add_le_add_left (abs_le_of_number? hw) _)
  have hhalf : (1 : ℚ) < 2 ^ 970 := one_lt_pow₀ (by norm_num) (by norm_num)
  rw [abs_nearest_lt_iff]
  calc |w + 1| ≤ 2 ^ 1024 - 2 ^ 971 + |1| := habs
    _ < 2 ^ 1024 - 2 ^ 970 := by
      rw [abs_one, pow_succ _ 970]
      generalize (2 : ℚ) ^ 970 = half at hhalf ⊢
      generalize (2 : ℚ) ^ 1024 = bound
      linarith

/-- **A weight above minus one has a finite positive divisor**, however near to minus one it is. -/
theorem Calibration.weighs_of_lt {weight : Float} (hw : number? weight = some w) (hlt : -1 < w) :
    Calibration.Weighs ⟨weight, weight + 1⟩ w (nearest (w + 1)) where
  lowWeight := hw
  divisor := number?_of_rounded (rounded_add hw number?_one) (abs_nearest_add_one_lt hw)
  divisor_pos := by
    have hgrid : OnGrid (w + 1) := (onGrid_of_number? hw).add (by exact_mod_cast onGrid_intCast 1)
    exact nearest_pos_of_onGrid hgrid (by linarith)

/-- **The weights that have a calibration** are the numbers above minus one. -/
theorem Calibration.ofWeight?_eq_some_iff (weight : Float) :
    Calibration.ofWeight? weight = some calibration ↔
      (∃ w, number? weight = some w ∧ -1 < w) ∧ calibration = ⟨weight, weight + 1⟩ := by
  have haccepted : (weight.isFinite && !(decide (weight ≤ -1))) = true ↔
      ∃ w, number? weight = some w ∧ -1 < w := by
    rw [Bool.and_eq_true, Bool.not_eq_true', decide_eq_false_iff_not, isFinite_iff]
    constructor
    · rintro ⟨⟨w, hw⟩, hle⟩
      rw [le_iff hw number?_neg_one, not_le] at hle
      exact ⟨w, hw, hle⟩
    · rintro ⟨w, hw, hlt⟩
      refine ⟨⟨w, hw⟩, ?_⟩
      rwa [le_iff hw number?_neg_one, not_le]
  unfold Calibration.ofWeight?
  split
  · next h =>
    rw [Option.some_inj, eq_comm]
    exact (and_iff_right (haccepted.1 h)).symm
  · next h =>
    constructor
    · intro hnone
      cases hnone
    · rintro ⟨hweight, -⟩
      exact absurd (haccepted.2 hweight) h

/-- **No weight that is accepted leaves a midpoint undefined.**  A weight is accepted exactly where
it is a number above minus one; then the divisor is the rounded sum of the weight and one, a number
above zero, and no midpoint of any reading set fails to be a number or an infinity. -/
theorem Calibration.accepted_weights_defined (weight : Float) :
    ((∃ calibration, Calibration.ofWeight? weight = some calibration) ↔
        ∃ w, number? weight = some w ∧ -1 < w) ∧
      ∀ calibration, Calibration.ofWeight? weight = some calibration →
        calibration.lowWeight = weight ∧
        (∃ w, number? weight = some w ∧
          number? calibration.divisor = some (nearest (w + 1)) ∧ 0 < nearest (w + 1)) ∧
        (∀ set, ∀ mid ∈ calibration.apply set, mid.isNaN = false) ∧
        ∀ highs lows mids, calibration.compute highs lows = .ok mids →
          ∀ mid ∈ mids, mid.isNaN = false := by
  refine ⟨?_, ?_⟩
  · simp [Calibration.ofWeight?_eq_some_iff]
  · intro calibration hcalibration
    obtain ⟨⟨w, hw, hlt⟩, rfl⟩ := (Calibration.ofWeight?_eq_some_iff weight).1 hcalibration
    have hweighs := Calibration.weighs_of_lt hw hlt
    refine ⟨rfl, ⟨w, hw, hweighs.divisor, hweighs.divisor_pos⟩, ?_, ?_⟩
    · intro set mid hmid
      exact hweighs.isNaN_of_mem_apply hmid
    · intro highs lows mids hmids mid hmid
      obtain ⟨set, -, rfl⟩ := Calibration.exists_of_compute hmids
      exact hweighs.isNaN_of_mem_apply hmid

/-- Next to minus one the sum is exact; at the other end the one is rounded away. -/
example :
    (Calibration.ofWeight? (.ofBits 0xBFEFFFFFFFFFFFFF)).map (decode ·.divisor) =
        some (.finite false (2 ^ 52) (-105)) ∧
      (Calibration.ofWeight? (.ofBits 0x7FEFFFFFFFFFFFFF)).map (decode ·.divisor) =
        some (.finite false (2 ^ 53 - 1) 971) := by
  decide +kernel

end PegBox
