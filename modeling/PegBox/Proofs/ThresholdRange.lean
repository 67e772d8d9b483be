/-
**Midpoints become thresholds exactly between minus one and 65536.**

A threshold is made of the whole part of a midpoint, and the fraction is dropped toward zero: so a
midpoint a little below zero still makes the threshold zero, and one a little below 65536 the
largest.  This module states the range on the exact value of a midpoint, whatever its bits are, and
follows it through the two loops that refuse a list at the first midpoint out of range: the one of
the hexadecimal line and the one that stores thresholds.  Both name the same peg, the first one, and
both show the same word for it.

Main definitions:

* `PegBox.InThresholdRange` — **a midpoint between minus one and 65536**;
* `PegBox.IsFirstOutOfRange` — the first midpoint of a list that is not, and its peg.

Main results:

* `PegBox.storable_iff_inThresholdRange` — the box can store exactly the midpoints in the range;
* `PegBox.thresholdsFrom_eq_error_iff` — a list is refused at its first midpoint out of range;
* `PegBox.Thresholds.ofMidpoints_eq_error_iff`, `PegBox.render_hex_eq_error_iff` — **the refusals**
  of thresholds and of a hexadecimal line;
* `PegBox.thresholds_exactly_in_range` — **which midpoints become thresholds**, and which refusal is
  given otherwise.
-/

import PegBox.Proofs.Binary64.Order
import PegBox.Proofs.Storing

set_option autoImplicit false

namespace PegBox

open Binary64

variable {mids : List Float} {mid : Float} {refusal : ReportError}

/-! ### One midpoint -/

/-- **A midpoint between minus one and 65536**; what is not a number counts as zero, and an infinity
lies beyond every number. -/
def InThresholdRange (mid : Float) : Prop :=
  ((-1 : ℚ) : WithBotTop ℚ) < valueOrZero mid ∧ valueOrZero mid < ((65536 : ℚ) : WithBotTop ℚ)

theorem dropFraction_nonneg_iff (q : ℚ) : 0 ≤ dropFraction q ↔ -1 < q := by
  unfold dropFraction
  split
  · next h => exact iff_of_true (Int.floor_nonneg.2 h) (by linarith)
  · rw [Int.le_ceil_iff, Int.cast_zero, zero_sub]

theorem dropFraction_lt_iff {q : ℚ} {n : ℤ} (hn : 0 < n) : dropFraction q < n ↔ q < n := by
  unfold dropFraction
  split
  · exact Int.floor_lt
  · next h =>
    have hneg : q < 0 := not_le.1 h
    have hceil : ⌈q⌉ ≤ 0 := Int.ceil_le.2 (by exact_mod_cast hneg.le)
    have hpos : (0 : ℚ) < n := by exact_mod_cast hn
    exact iff_of_true (hceil.trans_lt hn) (hneg.trans hpos)

/-- A clamped number fits 16 bits where the number does. -/
theorem clampToWord_mem_iff (n : ℤ) :
    0 ≤ clampToWord n ∧ clampToWord n < 65536 ↔ 0 ≤ n ∧ n < 65536 := by
  simp only [clampToWord, minWord, maxWord]
  omega

/-- The box can store exactly the midpoints in the range. -/
theorem storable_iff_inThresholdRange (mid : Float) : Storable mid ↔ InThresholdRange mid := by
  rw [Storable, InThresholdRange, truncate_eq_wholeWord]
  induction valueOrZero mid using WithBotTop.rec with
  | bot => exact iff_of_false (by decide) (by simp)
  | coe q =>
      have hlast : dropFraction q < 65536 ↔ q < 65536 := dropFraction_lt_iff (by norm_num)
      rw [wholeWord_number, clampToWord_mem_iff, dropFraction_nonneg_iff, hlast,
        WithBotTop.coe_lt_coe, WithBotTop.coe_lt_coe]
  | top => exact iff_of_false (by decide) (by simp)

/-! ### The first midpoint out of range -/

/-- **The first midpoint out of range** and the peg at which it stands. -/
structure IsFirstOutOfRange (mids : List Float) (peg : ℕ) (mid : Float) : Prop where
  at_peg : mids[peg]? = some mid
  out_of_range : ¬ InThresholdRange mid
  in_range_before : ∀ earlier < peg, ∀ other, mids[earlier]? = some other → InThresholdRange other

theorem isFirstOutOfRange_zero_iff {head : Float} {rest : List Float} :
    IsFirstOutOfRange (head :: rest) 0 mid ↔ mid = head ∧ ¬ InThresholdRange head := by
  constructor
  · rintro ⟨hpeg, hout, -⟩
    rw [List.getElem?_cons_zero, Option.some_inj] at hpeg
    exact ⟨hpeg.symm, hpeg ▸ hout⟩
  · rintro ⟨rfl, hout⟩
    exact ⟨rfl, hout, fun earlier h => absurd h (Nat.not_lt_zero earlier)⟩

theorem isFirstOutOfRange_succ_iff {head : Float} {rest : List Float} {peg : ℕ} :
    IsFirstOutOfRange (head :: rest) (peg + 1) mid ↔
      InThresholdRange head ∧ IsFirstOutOfRange rest peg mid := by
  constructor
  · rintro ⟨hpeg, hout, hbefore⟩
    refine ⟨hbefore 0 (Nat.succ_pos peg) head rfl, hpeg, hout, ?_⟩
    intro earlier hearlier other hother
    exact hbefore (earlier + 1) (Nat.succ_lt_succ hearlier) other hother
  · rintro ⟨hhead, hpeg, hout, hbefore⟩
    refine ⟨hpeg, hout, ?_⟩
    intro earlier hearlier other hother
    cases earlier with
    | zero =>
        rw [List.getElem?_cons_zero, Option.some_inj] at hother
        exact hother ▸ hhead
    | succ earlier => exact hbefore earlier (Nat.lt_of_succ_lt_succ hearlier) other hother

/-- A list of thresholds is refused at its first midpoint out of range, counted from where the count
starts. -/
theorem thresholdsFrom_eq_error_iff (start : ℕ) :
    thresholdsFrom start mids = .error refusal ↔
      ∃ peg mid, IsFirstOutOfRange mids peg mid ∧
        refusal = .thresholdOutOfRange (start + peg) (truncate mid) := by
  induction mids generalizing start with
  | nil =>
      refine iff_of_false (by simp [thresholdsFrom]) ?_
      rintro ⟨peg, mid, hfirst, -⟩
      cases hfirst.at_peg
  | cons head rest ih =>
      rw [thresholdsFrom, ← Nat.or_exists_add_one]
      simp only [isFirstOutOfRange_zero_iff, isFirstOutOfRange_succ_iff]
      by_cases hhead : InThresholdRange head
      · rw [thresholdOfMidpoint_of_storable start ((storable_iff_inThresholdRange head).2 hhead)]
        have hrest := ih (start + 1)
        simp only [hhead, not_true_eq_false, and_false, false_and, exists_false, false_or, true_and]
        simp only [Nat.add_assoc, Nat.add_comm 1] at hrest ⊢
        rw [← hrest]
        cases thresholdsFrom (start + 1) rest <;> simp
      · rw [thresholdOfMidpoint_of_not_storable start
          (mt (storable_iff_inThresholdRange head).1 hhead)]
        simp [hhead, eq_comm]

theorem thresholdsFrom_zero_eq_error_iff :
    thresholdsFrom 0 mids = .error refusal ↔
      ∃ peg mid, IsFirstOutOfRange mids peg mid ∧
        refusal = .thresholdOutOfRange peg (truncate mid) := by
  rw [thresholdsFrom_eq_error_iff 0]
  simp only [Nat.zero_add]

/-! ### Lists of midpoints -/

/-- A list of thresholds exists where all midpoints are in the range. -/
theorem exists_thresholdsFrom_iff (start : ℕ) :
    (∃ words, thresholdsFrom start mids = .ok words) ↔ ∀ mid ∈ mids, InThresholdRange mid := by
  simp [thresholdsFrom_eq_ok_iff, storable_iff_inThresholdRange]

theorem render_hex_eq_error_iff {separator : String} :
    render mids .hex separator = .error refusal ↔
      ∃ peg mid, IsFirstOutOfRange mids peg mid ∧
        refusal = .thresholdOutOfRange peg (truncate mid) := by
  rw [← thresholdsFrom_zero_eq_error_iff, render]
  cases thresholdsFrom 0 mids <;> simp

theorem exists_render_hex_iff {separator : String} :
    (∃ line, render mids .hex separator = .ok line) ↔ ∀ mid ∈ mids, InThresholdRange mid := by
  rw [← exists_thresholdsFrom_iff 0, render]
  cases thresholdsFrom 0 mids <;> simp

namespace Thresholds

/-- Thresholds are refused for their number, and otherwise at the first midpoint out of range. -/
theorem ofMidpoints_eq_error_iff :
    ofMidpoints mids = .error refusal ↔
      mids.length ≠ pegCount ∧ refusal = .pegCountMismatch pegCount mids.length ∨
        mids.length = pegCount ∧ ∃ peg mid, IsFirstOutOfRange mids peg mid ∧
          refusal = .thresholdOutOfRange peg (truncate mid) := by
  by_cases hlength : mids.length = pegCount
  · rw [← thresholdsFrom_zero_eq_error_iff, ← values_ofMidpoints hlength]
    cases ofMidpoints mids <;> simp [hlength, Except.map]
  · rw [ofMidpoints_of_length_ne hlength]
    simp [hlength, eq_comm]

theorem exists_ofMidpoints_iff :
    (∃ thresholds, ofMidpoints mids = .ok thresholds) ↔
      mids.length = pegCount ∧ ∀ mid ∈ mids, InThresholdRange mid := by
  by_cases hlength : mids.length = pegCount
  · rw [← exists_thresholdsFrom_iff 0, ← values_ofMidpoints hlength]
    cases ofMidpoints mids <;> simp [hlength, Except.map]
  · rw [ofMidpoints_of_length_ne hlength]
    simp [hlength]

/-- The thresholds are the truncated midpoints, in order. -/
theorem values_eq_truncate {thresholds : Thresholds} (h : ofMidpoints mids = .ok thresholds) :
    thresholds.values.map (fun word => (word.toNat : ℤ)) = mids.map truncate := by
  obtain ⟨hstorable, hvalues⟩ := thresholdsFrom_eq_ok_iff.1 (thresholdsFrom_of_ofMidpoints h)
  rw [hvalues, List.map_map]
  refine List.map_congr_left ?_
  intro mid hmid
  exact toNat_storedWord (hstorable mid hmid)

end Thresholds

/-- **Which midpoints become thresholds.**  A midpoint is truncated to the word of its exact value,
and becomes a threshold, namely that word, exactly where the value is between minus one and 65536.
A hexadecimal line exists exactly where all midpoints are such, and thresholds exist where in
addition there is one midpoint for each peg; they are the truncated midpoints.  Any other number of
midpoints is refused as such, whatever they are; and otherwise both refusals name the first peg
whose midpoint is not in the range, and the word it is truncated to. -/
theorem thresholds_exactly_in_range (mids : List Float) (separator : String) :
    (∀ mid : Float, truncate mid = wholeWord (valueOrZero mid) ∧
      ∀ peg, ((∃ word, thresholdOfMidpoint peg mid = .ok word) ↔ InThresholdRange mid) ∧
        ∀ word, thresholdOfMidpoint peg mid = .ok word → (word.toNat : ℤ) = truncate mid) ∧
    ((∃ line, render mids .hex separator = .ok line) ↔ ∀ mid ∈ mids, InThresholdRange mid) ∧
    ((∃ thresholds, Thresholds.ofMidpoints mids = .ok thresholds) ↔
      mids.length = 6 ∧ ∀ mid ∈ mids, InThresholdRange mid) ∧
    (∀ thresholds, Thresholds.ofMidpoints mids = .ok thresholds →
      thresholds.values.map (fun word => (word.toNat : ℤ)) = mids.map truncate) ∧
    (∀ refusal, Thresholds.ofMidpoints mids = .error refusal ↔
      mids.length ≠ 6 ∧ refusal = .pegCountMismatch 6 mids.length ∨
        mids.length = 6 ∧ ∃ peg mid, IsFirstOutOfRange mids peg mid ∧
          refusal = .thresholdOutOfRange peg (truncate mid)) ∧
    ∀ refusal, render mids .hex separator = .error refusal ↔
      ∃ peg mid, IsFirstOutOfRange mids peg mid ∧
        refusal = .thresholdOutOfRange peg (truncate mid) := by
  refine ⟨fun mid => ⟨truncate_eq_wholeWord mid, fun peg => ?_⟩, exists_render_hex_iff,
    Thresholds.exists_ofMidpoints_iff, fun thresholds => Thresholds.values_eq_truncate,
    fun refusal => Thresholds.ofMidpoints_eq_error_iff, fun refusal => render_hex_eq_error_iff⟩
  rw [← storable_iff_inThresholdRange]
  by_cases hmid : Storable mid
  · rw [thresholdOfMidpoint_of_storable peg hmid]
    refine ⟨iff_of_true ⟨_, rfl⟩ hmid, ?_⟩
    rintro word ⟨⟩
    exact toNat_storedWord hmid
  · rw [thresholdOfMidpoint_of_not_storable peg hmid]
    exact ⟨iff_of_false (by simp) hmid, by simp⟩

end PegBox
