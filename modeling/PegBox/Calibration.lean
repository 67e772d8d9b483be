/-
**The weighted midpoint of a pair of readings.**

The detection threshold of a peg lies between its covered reading and its uncovered one, nearer to
the covered one.  A calibration says how much nearer: the low counts `lowWeight` times, the high
once, and the sum is divided by `divisor`.  All three operations are those of binary64, each rounded
on its own.

Main definitions:

* `PegBox.Calibration` — the weights;
* `PegBox.Calibration.standard` — the weights of the box, four to one;
* `PegBox.Calibration.ofWeight?` — the calibration of a weight, where it is well defined;
* `PegBox.Calibration.midpoint` — **the midpoint of one pair of readings**;
* `PegBox.Calibration.apply` — the midpoints of a reading set;
* `PegBox.Calibration.compute` — the midpoints of two captures, or the reason why they do not pair
  up.

Main results:

* `PegBox.Calibration.length_apply` — there is one midpoint for each peg;
* `PegBox.Calibration.compute_ofLists` — `compute` accepts exactly the captures that form a reading
  set, and then answers as `apply` does on it.
-/

import PegBox.ReadingSet

set_option autoImplicit false

namespace PegBox

/-- The weights of a midpoint. -/
structure Calibration where
  /-- How many times the low counts against one high. -/
  lowWeight : Float
  /-- What the weighted sum is divided by. -/
  divisor : Float
  deriving DecidableEq

namespace Calibration

/-- The weights of the box: the low counts four times, the sum is divided by five. -/
def standard : Calibration := ⟨4, 5⟩

/-- The calibration of a weight.  The divisor is the sum of the weights, so a weight has one exactly
where it is finite and above minus one. -/
def ofWeight? (lowWeight : Float) : Option Calibration :=
  if lowWeight.isFinite && !(decide (lowWeight ≤ -1)) then some ⟨lowWeight, lowWeight + 1⟩
  else none

/-- **The midpoint of a pair of readings**: the weighted sum over the divisor, rounded after the
product, after the sum and after the quotient. -/
def midpoint (calibration : Calibration) (high low : Float) : Float :=
  (high + calibration.lowWeight * low) / calibration.divisor

/-- The midpoints of two lists of readings, pair by pair. -/
def midpoints (calibration : Calibration) (highs lows : List Float) : List Float :=
  List.zipWith calibration.midpoint highs lows

/-- The midpoints of a reading set, peg by peg. -/
def apply (calibration : Calibration) (set : ReadingSet) : List Float :=
  set.pegs.map fun reading => calibration.midpoint reading.2.1 reading.2.2

/-- The midpoints of two captures, or the reason why they do not pair up. -/
def compute (calibration : Calibration) (highs lows : List Float) :
    Except InputFault (List Float) :=
  match pairingFault? highs lows with
  | some fault => .error fault
  | none => .ok (calibration.midpoints highs lows)

/-- The midpoints of a reading set are those of its two lists. -/
theorem apply_eq_midpoints (calibration : Calibration) (set : ReadingSet) :
    calibration.apply set = calibration.midpoints set.highs set.lows := by
  apply List.ext_getElem <;> simp [apply, midpoints, ReadingSet.pegs]

/-- There is one midpoint for each peg. -/
theorem length_apply (calibration : Calibration) (set : ReadingSet) :
    (calibration.apply set).length = set.size := by
  rw [apply_eq_midpoints, midpoints, List.length_zipWith, ← set.length_eq, Nat.min_self,
    ReadingSet.size]

/-- `compute` accepts exactly the captures that form a reading set, and then answers as `apply`
does on it. -/
theorem compute_ofLists (calibration : Calibration) (highs lows : List Float) :
    calibration.compute highs lows = (ReadingSet.ofLists highs lows).map calibration.apply := by
  unfold compute
  split
  · next h => simp [ReadingSet.ofLists_of_fault h, Except.map]
  · next h => simp [ReadingSet.ofLists_of_paired h, Except.map, apply_eq_midpoints]

end Calibration

end PegBox
