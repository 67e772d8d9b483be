/-
**Captures of whole counts are computed exactly.**

The converter of the box delivers 16-bit counts.  The weighted sum of two counts is a whole number
far below `2 ^ 53`, so the product and the sum of a midpoint are not rounded at all.  The quotient
is, but a fifth of a whole number is either whole, and then it is kept, or at least a fifth away
from the next whole number, and the rounding does not carry it there.  The whole part of every
midpoint is therefore the quotient of whole numbers; it lies between the two counts, and the box can
store it.

Main definitions:

* `PegBox.wholeMidpoint` — **the midpoint of two counts in whole numbers**.

Main results:

* `PegBox.Binary64.floor_nearest_div_five` — rounding a fifth does not reach the next whole number;
* `PegBox.truncate_midpoint_counts` — the whole part of a midpoint of counts is `wholeMidpoint`;
* `PegBox.storable_of_counts` — the box can store the midpoints of a capture of counts;
* `PegBox.countCapture_exact` — **what becomes of a capture of counts**, from the readings to the
  three formats.
-/

import PegBox.Calibration
import PegBox.Proofs.Binary64.Arithmetic
import PegBox.Proofs.Storing

set_option autoImplicit false

namespace PegBox

/-! ### A fifth of a whole number -/

/-- The nearest double to a fifth of a whole number has the whole part of the exact fifth. -/
theorem Binary64.floor_nearest_div_five {n : ℕ} (h : n < 2 ^ 19) :
    ⌊nearest ((n : ℚ) / 5)⌋ = ((n / 5 : ℕ) : ℤ) := by
  have hwhole : nearest ((n / 5 : ℕ) : ℚ) = (n / 5 : ℕ) := by
    have hsmall : |((n / 5 : ℕ) : ℤ)| < 2 ^ 53 := by
      rw [abs_of_nonneg (by positivity)]
      omega
    exact_mod_cast nearest_intCast hsmall
  rw [Int.floor_eq_iff]
  constructor
  · -- the exact whole part is a double, so rounding does not fall below it
    have hle : ((n / 5 : ℕ) : ℚ) ≤ (n : ℚ) / 5 := by
      rw [le_div_iff₀ (by norm_num)]
      exact_mod_cast Nat.div_mul_le_self n 5
    have hmono := nearest_mono hle
    rw [hwhole] at hmono
    exact_mod_cast hmono
  · have hfifth : (n : ℚ) / 5 ≤ (n / 5 : ℕ) + 4 / 5 := by
      have hnat : n ≤ 5 * (n / 5) + 4 := by omega
      have hrat : (n : ℚ) ≤ 5 * (n / 5 : ℕ) + 4 := by exact_mod_cast hnat
      linarith
    have herror : |nearest ((n : ℚ) / 5) - (n : ℚ) / 5| < 1 / 5 := by
      rcases Nat.eq_zero_or_pos n with rfl | hpos
      · norm_num [nearest_zero]
      · have hq : (0 : ℚ) < (n : ℚ) / 5 := by positivity
        have hbound : |(n : ℚ) / 5| < 2 ^ (19 : ℤ) := by
          have hn : (n : ℚ) < 524288 := by exact_mod_cast h
          rw [abs_of_pos hq, show (2 : ℚ) ^ (19 : ℤ) = 524288 by norm_num]
          linarith
        have hunit := ulpExponent_le (abs_pos.2 hq.ne') hbound (by norm_num)
        calc |nearest ((n : ℚ) / 5) - (n : ℚ) / 5| ≤ 2 ^ ulpExponent ((n : ℚ) / 5) / 2 :=
              abs_nearest_sub_le _
          _ ≤ 2 ^ (19 - 53 : ℤ) / 2 := by gcongr; norm_num
          _ < 1 / 5 := by norm_num
    have hupper := (abs_lt.1 herror).2
    rw [Int.cast_natCast]
    linarith

/-! ### The midpoint of two counts -/

/-- **The midpoint of two counts in whole numbers**, the fraction dropped. -/
def wholeMidpoint (high low : UInt16) : ℕ := (high.toNat + 4 * low.toNat) / 5

theorem wholeMidpoint_mem (high low : UInt16) :
    min high.toNat low.toNat ≤ wholeMidpoint high low ∧
      wholeMidpoint high low ≤ max high.toNat low.toNat := by
  rw [wholeMidpoint]
  omega

theorem wholeMidpoint_between {high low : UInt16} (h : low.toNat + 5 ≤ high.toNat) :
    low.toNat < wholeMidpoint high low ∧ wholeMidpoint high low < high.toNat := by
  rw [wholeMidpoint]
  omega

theorem number?_lowWeight : Binary64.number? Calibration.standard.lowWeight = some 4 := by
  have hdecode : Binary64.decode (4 : Float) = .finite false (2 ^ 52) (-50) := by decide
  change Binary64.number? (4 : Float) = some 4
  rw [Binary64.number?_of_decode hdecode]
  norm_num

theorem number?_divisor : Binary64.number? Calibration.standard.divisor = some 5 := by
  have hdecode : Binary64.decode (5 : Float) = .finite false (5 * 2 ^ 50) (-50) := by decide
  change Binary64.number? (5 : Float) = some 5
  rw [Binary64.number?_of_decode hdecode]
  norm_num

/-- The midpoint of two counts is the nearest double to the exact one. -/
theorem number?_midpoint_counts (high low : UInt16) :
    Binary64.number? (Calibration.standard.midpoint high.toFloat low.toFloat) =
      some (Binary64.nearest (((high.toNat + 4 * low.toNat : ℕ) : ℚ) / 5)) := by
  have hhigh := high.toNat_lt
  have hlow := low.toNat_lt
  -- the product and the sum are whole and small, so only the quotient is rounded
  have hproduct : Binary64.number? (Calibration.standard.lowWeight * low.toFloat) =
      some ((4 * low.toNat : ℕ) : ℚ) := by
    have hrounded := Binary64.rounded_mul number?_lowWeight (Binary64.number?_toFloat low)
    refine Binary64.number?_of_rounded_natCast ?_ (by omega)
    exact_mod_cast hrounded
  have hsum : Binary64.number?
      (high.toFloat + Calibration.standard.lowWeight * low.toFloat) =
        some ((high.toNat + 4 * low.toNat : ℕ) : ℚ) := by
    have hrounded := Binary64.rounded_add (Binary64.number?_toFloat high) hproduct
    refine Binary64.number?_of_rounded_natCast ?_ (by omega)
    exact_mod_cast hrounded
  have hquotient := Binary64.rounded_div hsum number?_divisor (by norm_num)
  refine Binary64.number?_of_rounded hquotient ?_
  -- rounding does not carry a number beyond a whole number that it is below
  have hnonneg : (0 : ℚ) ≤ ((high.toNat + 4 * low.toNat : ℕ) : ℚ) / 5 := by positivity
  have hle : ((high.toNat + 4 * low.toNat : ℕ) : ℚ) / 5 ≤ ((524288 : ℤ) : ℚ) := by
    have hnat : ((high.toNat + 4 * low.toNat : ℕ) : ℚ) ≤ 524288 := by
      exact_mod_cast (by omega : high.toNat + 4 * low.toNat ≤ 524288)
    rw [Int.cast_ofNat]
    linarith
  have hmono := Binary64.nearest_mono hle
  rw [Binary64.nearest_intCast (by norm_num), Int.cast_ofNat] at hmono
  rw [abs_of_nonneg (Binary64.nearest_nonneg hnonneg)]
  calc Binary64.nearest (((high.toNat + 4 * low.toNat : ℕ) : ℚ) / 5) ≤ 524288 := hmono
    _ < 2 ^ 20 := by norm_num
    _ ≤ 2 ^ 1024 := pow_le_pow_right₀ (by norm_num) (by norm_num)

/-- **The whole part of a midpoint of counts** is the midpoint in whole numbers, although three
operations on doubles lead to it. -/
theorem truncate_midpoint_counts (high low : UInt16) :
    Binary64.truncate (Calibration.standard.midpoint high.toFloat low.toFloat) =
      (wholeMidpoint high low : ℤ) := by
  have hhigh := high.toNat_lt
  have hlow := low.toNat_lt
  have hnonneg : (0 : ℚ) ≤ ((high.toNat + 4 * low.toNat : ℕ) : ℚ) / 5 := by positivity
  rw [Binary64.truncate_of_number? (number?_midpoint_counts high low),
    if_pos (Binary64.nearest_nonneg hnonneg), Binary64.floor_nearest_div_five (by omega)]
  refine Binary64.clampToWord_of_mem_range ?_ ?_ <;>
    simp only [Binary64.minWord, Binary64.maxWord] <;> omega

theorem storable_midpoint_counts (high low : UInt16) :
    Storable (Calibration.standard.midpoint high.toFloat low.toFloat) := by
  have hhigh := high.toNat_lt
  have hlow := low.toNat_lt
  have hmem := wholeMidpoint_mem high low
  rw [Storable, truncate_midpoint_counts]
  omega

/-! ### Captures of counts -/

/-- Counts always pair up if there are as many of both, and at least one. -/
theorem ofCounts_of_length_eq {highs lows : List UInt16} (hlength : highs.length = lows.length)
    (hne : highs ≠ []) :
    ∃ set, ReadingSet.ofCounts highs lows = .ok set ∧
      set.highs = highs.map UInt16.toFloat ∧ set.lows = lows.map UInt16.toFloat := by
  have hfinite (counts : List UInt16) :
      ∀ x ∈ counts.map UInt16.toFloat, x.isFinite = true := by
    rw [List.forall_mem_map]
    intro count _
    exact (Binary64.isFinite_iff _).2 ⟨_, Binary64.number?_toFloat count⟩
  have hpaired : pairingFault? (highs.map UInt16.toFloat) (lows.map UInt16.toFloat) = none := by
    rw [pairingFault?_eq_none_iff]
    refine ⟨?_, ?_, hfinite highs, hfinite lows⟩
    · rwa [Ne, List.map_eq_nil_iff]
    · rw [List.length_map, List.length_map, hlength]
  exact ⟨_, ReadingSet.ofLists_of_paired hpaired, rfl, rfl⟩

/-- The midpoints of a capture of counts, pair by pair. -/
theorem apply_counts {highs lows : List UInt16} {set : ReadingSet}
    (hhighs : set.highs = highs.map UInt16.toFloat) (hlows : set.lows = lows.map UInt16.toFloat) :
    Calibration.standard.apply set =
      List.zipWith (fun high low => Calibration.standard.midpoint high.toFloat low.toFloat)
        highs lows := by
  rw [Calibration.apply_eq_midpoints, Calibration.midpoints, hhighs, hlows, List.zipWith_map]

/-- The box can store the midpoints of a capture of counts. -/
theorem storable_of_counts {highs lows : List UInt16} {set : ReadingSet}
    (hhighs : set.highs = highs.map UInt16.toFloat) (hlows : set.lows = lows.map UInt16.toFloat) :
    ∀ mid ∈ Calibration.standard.apply set, Storable mid := by
  rw [apply_counts hhighs hlows]
  intro mid hmid
  obtain ⟨high, low, rfl⟩ : ∃ high low : UInt16,
      mid = Calibration.standard.midpoint high.toFloat low.toFloat := by
    rw [List.mem_iff_getElem] at hmid
    obtain ⟨peg, hpeg, rfl⟩ := hmid
    exact ⟨_, _, List.getElem_zipWith⟩
  exact storable_midpoint_counts high low

/-- **What becomes of a capture of counts.**  Counts pair up; the whole part of the midpoint of each
peg is the midpoint in whole numbers, between the two counts; the decimal and the hexadecimal line
exist, and thresholds and the console call exist if there is one pair for each peg of the box and
are refused for their number otherwise. -/
theorem countCapture_exact (highs lows : List UInt16) (hlength : highs.length = lows.length)
    (hne : highs ≠ []) :
    ∃ set mids, ReadingSet.ofCounts highs lows = .ok set ∧
      Calibration.standard.apply set = mids ∧
      Calibration.standard.compute set.highs set.lows = .ok mids ∧
      mids.length = highs.length ∧
      (∀ (peg : ℕ) (hpeg : peg < mids.length) (hhigh : peg < highs.length)
        (hlow : peg < lows.length),
        let whole := Binary64.truncate mids[peg]
        whole = ((highs[peg].toNat + 4 * lows[peg].toNat) / 5 : ℕ) ∧
          (min highs[peg].toNat lows[peg].toNat : ℤ) ≤ whole ∧
          whole ≤ (max highs[peg].toNat lows[peg].toNat : ℤ) ∧
          (lows[peg].toNat + 5 ≤ highs[peg].toNat →
            (lows[peg].toNat : ℤ) < whole ∧ whole < (highs[peg].toNat : ℤ))) ∧
      (∀ separator, (∃ line, render mids .decimal separator = .ok line) ∧
        ∃ line, render mids .hex separator = .ok line) ∧
      (highs.length = pegCount →
        (∃ thresholds, Thresholds.ofMidpoints mids = .ok thresholds) ∧
          ∀ separator, ∃ line, render mids .console separator = .ok line) ∧
      (highs.length ≠ pegCount →
        Thresholds.ofMidpoints mids = .error (.pegCountMismatch pegCount highs.length) ∧
          ∀ separator, render mids .console separator =
            .error (.pegCountMismatch pegCount highs.length)) := by
  obtain ⟨set, hset, hhighs, hlows⟩ := ofCounts_of_length_eq hlength hne
  have hmids := apply_counts hhighs hlows
  have hstorable := storable_of_counts hhighs hlows
  have hcount : (Calibration.standard.apply set).length = highs.length := by
    rw [hmids, List.length_zipWith, ← hlength, min_self]
  refine ⟨set, _, hset, rfl, ?_, hcount, ?_, ?_, ?_, ?_⟩
  · rw [Calibration.compute_ofLists, ReadingSet.ofLists_self]
    rfl
  · intro peg hpeg hhigh hlow
    have hwhole : Binary64.truncate (Calibration.standard.apply set)[peg] =
        (wholeMidpoint highs[peg] lows[peg] : ℤ) := by
      simp only [hmids, List.getElem_zipWith]
      exact truncate_midpoint_counts _ _
    have hmem := wholeMidpoint_mem highs[peg] lows[peg]
    dsimp only
    rw [hwhole]
    refine ⟨rfl, ?_, ?_, ?_⟩
    · exact_mod_cast hmem.1
    · exact_mod_cast hmem.2
    · intro hgap
      have hbetween := wholeMidpoint_between hgap
      exact ⟨by exact_mod_cast hbetween.1, by exact_mod_cast hbetween.2⟩
  · intro separator
    exact ⟨⟨_, rfl⟩, _, render_hex_of_storable separator hstorable⟩
  · intro hsix
    have hpegs := hcount.trans hsix
    obtain ⟨thresholds, hstored, -⟩ := Thresholds.ofMidpoints_of_storable hpegs hstorable
    exact ⟨⟨thresholds, hstored⟩, fun separator =>
      render_console_of_storable separator hpegs hstorable⟩
  · intro hother
    have hpegs : (Calibration.standard.apply set).length ≠ pegCount := by rwa [hcount]
    rw [← hcount]
    exact ⟨Thresholds.ofMidpoints_of_length_ne hpegs, fun separator =>
      render_console_of_length_ne separator hpegs⟩

/-- Three pegs: the largest counts, the widest gap the wrong way round, and a pair from the
bench. -/
theorem countCapture_exact_three :
    [(65535 : UInt16), 0, 833].length = [(65535 : UInt16), 65535, 40].length ∧
      [(65535 : UInt16), 0, 833] ≠ [] ∧
      ∃ set mids, ReadingSet.ofCounts [65535, 0, 833] [65535, 65535, 40] = .ok set ∧
        Calibration.standard.apply set = mids ∧
        mids.map Binary64.truncate = [65535, 52428, 198] ∧
        Thresholds.ofMidpoints mids = .error (.pegCountMismatch 6 3) := by
  have hlength : [(65535 : UInt16), 0, 833].length = [(65535 : UInt16), 65535, 40].length := rfl
  have hne : [(65535 : UInt16), 0, 833] ≠ [] := List.cons_ne_nil _ _
  obtain ⟨set, mids, hset, hmids, -, hcount, hpegs, -, -, hother⟩ :=
    countCapture_exact [65535, 0, 833] [65535, 65535, 40] hlength hne
  refine ⟨hlength, hne, set, mids, hset, hmids, ?_, (hother (by decide)).1⟩
  obtain ⟨first, second, third, rfl⟩ := List.length_eq_three.1 hcount
  have hfirst := (hpegs 0 (by simp) (by simp) (by simp)).1
  have hsecond := (hpegs 1 (by simp) (by simp) (by simp)).1
  have hthird := (hpegs 2 (by simp) (by simp) (by simp)).1
  simp only [List.getElem_cons_zero, List.getElem_cons_succ] at hfirst hsecond hthird
  rw [List.map_cons, List.map_cons, List.map_cons, hfirst, hsecond, hthird]
  rfl

end PegBox
