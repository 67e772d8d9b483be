/-
**Paired readings.**

A capture is a list of readings, one per peg.  A calibration needs two of them: the *highs*, taken
with the pegs uncovered, and the *lows*, taken with the pegs covered.  This module states when two
captures pair up, names the fault where they do not, and keeps a pair that does in a type that
carries the reasons.

Main definitions:

* `PegBox.InputFault` — why two captures do not pair up;
* `PegBox.pairingFault?` — **the verdict** on two captures: the first fault, if there is one;
* `PegBox.ReadingSet` — two captures that pair up;
* `PegBox.ReadingSet.ofLists` — a reading set, or the fault;
* `PegBox.ReadingSet.ofCounts` — a reading set of whole counts;
* `PegBox.ReadingSet.pegs` — the readings peg by peg.

Main results:

* `PegBox.pairingFault?_eq_none_iff` — no fault is found exactly where the captures are not empty,
  equally long and finite throughout;
* `PegBox.ReadingSet.length_eq`, `PegBox.ReadingSet.size_pos` — a reading set has as many lows as
  highs, and at least one;
* `PegBox.ReadingSet.ofLists_self` — the lists of a reading set are accepted again.
-/

import PegBox.PegId

set_option autoImplicit false

namespace PegBox

/-! ### The verdict on two captures -/

/-- Why two captures do not pair up. -/
inductive InputFault where
  | empty
  | lengthMismatch (highs lows : Nat)
  /-- At this position one of the two readings is not a finite number. -/
  | nonFinite (index : Nat)
  deriving DecidableEq, Repr

/-- What the operator is told about a fault. -/
def InputFault.message : InputFault → String
  | .empty => "invalid input: no readings"
  | .lengthMismatch highs lows =>
    "invalid input: " ++ toString highs ++ " high readings but " ++ toString lows ++ " low readings"
  | .nonFinite index => "invalid input: reading " ++ toString index ++ " is not a finite number"

/-- The first position, counted from `index`, at which one of the two readings is not finite. -/
def firstNonFinite? (index : Nat) : List Float → List Float → Option Nat
  | high :: highs, low :: lows =>
    if high.isFinite && low.isFinite then firstNonFinite? (index + 1) highs lows else some index
  | _, _ => none

/-- **The verdict on two captures**: emptiness is looked at first, then the lengths, then the
values. -/
def pairingFault? (highs lows : List Float) : Option InputFault :=
  if highs.isEmpty || lows.isEmpty then some .empty
  else if highs.length ≠ lows.length then some (.lengthMismatch highs.length lows.length)
  else (firstNonFinite? 0 highs lows).map .nonFinite

theorem firstNonFinite?_eq_none_iff (highs lows : List Float) (h : highs.length = lows.length)
    (index : Nat) :
    firstNonFinite? index highs lows = none ↔
      (∀ x ∈ highs, x.isFinite = true) ∧ ∀ x ∈ lows, x.isFinite = true := by
  induction highs generalizing lows index with
  | nil =>
    cases lows with
    | nil => simp [firstNonFinite?]
    | cons _ _ => simp at h
  | cons high highs ih =>
    cases lows with
    | nil => simp at h
    | cons low lows =>
      have h' : highs.length = lows.length := by simpa using h
      by_cases hh : high.isFinite = true <;> by_cases hl : low.isFinite = true <;>
        simp [firstNonFinite?, hh, hl, ih lows h']

/-- No fault is found exactly where the captures are not empty, equally long and finite
throughout. -/
theorem pairingFault?_eq_none_iff (highs lows : List Float) :
    pairingFault? highs lows = none ↔
      highs ≠ [] ∧ highs.length = lows.length ∧
        (∀ x ∈ highs, x.isFinite = true) ∧ ∀ x ∈ lows, x.isFinite = true := by
  by_cases hlen : highs.length = lows.length
  · have hempty : (highs.isEmpty || lows.isEmpty) = true ↔ highs = [] := by
      cases highs <;> cases lows <;> simp_all
    by_cases hnil : highs = []
    · simp [pairingFault?, hnil]
    · have : (highs.isEmpty || lows.isEmpty) = false := by
        simpa using mt hempty.1 hnil
      simp [pairingFault?, this, hlen, hnil, firstNonFinite?_eq_none_iff highs lows hlen]
  · simp only [pairingFault?, hlen]
    split <;> simp

/-! ### Reading sets -/

/-- Two captures that pair up: as many lows as highs, at least one, and every reading finite. -/
structure ReadingSet where
  /-- The readings with the pegs uncovered. -/
  highs : List Float
  /-- The readings with the pegs covered. -/
  lows : List Float
  paired : pairingFault? highs lows = none
  deriving DecidableEq

namespace ReadingSet

/-- The reading set of two captures, or the reason why they do not pair up. -/
def ofLists (highs lows : List Float) : Except InputFault ReadingSet :=
  match h : pairingFault? highs lows with
  | none => .ok ⟨highs, lows, h⟩
  | some fault => .error fault

/-- The reading set of two captures of whole counts, as the converter of the box delivers them. -/
def ofCounts (highs lows : List UInt16) : Except InputFault ReadingSet :=
  ofLists (highs.map UInt16.toFloat) (lows.map UInt16.toFloat)

/-- How many pegs a reading set covers. -/
def size (set : ReadingSet) : Nat := set.highs.length

/-- Whether a reading set covers no peg. -/
def isEmpty (set : ReadingSet) : Bool := set.highs.isEmpty

/-- The readings peg by peg: the number of the peg, its high and its low. -/
def pegs (set : ReadingSet) : List (PegId × Float × Float) :=
  (set.highs.zip set.lows).mapIdx fun index reading => (PegId.ofIndex index, reading)

theorem length_eq (set : ReadingSet) : set.highs.length = set.lows.length :=
  ((pairingFault?_eq_none_iff _ _).1 set.paired).2.1

theorem size_pos (set : ReadingSet) : 0 < set.size :=
  List.length_pos_iff.2 ((pairingFault?_eq_none_iff _ _).1 set.paired).1

/-- Every peg has its two readings. -/
theorem exists_readings (set : ReadingSet) {peg : Nat} (hpeg : peg < set.size) :
    ∃ high low, set.highs[peg]? = some high ∧ set.lows[peg]? = some low := by
  have hlow : peg < set.lows.length := set.length_eq ▸ hpeg
  exact ⟨_, _, List.getElem?_eq_getElem hpeg, List.getElem?_eq_getElem hlow⟩

theorem ofLists_of_fault {highs lows : List Float} {fault : InputFault}
    (h : pairingFault? highs lows = some fault) : ofLists highs lows = .error fault := by
  unfold ofLists
  split <;> simp_all

theorem ofLists_of_paired {highs lows : List Float} (h : pairingFault? highs lows = none) :
    ofLists highs lows = .ok ⟨highs, lows, h⟩ := by
  unfold ofLists
  split <;> simp_all

/-- The lists of a reading set are accepted again. -/
theorem ofLists_self (set : ReadingSet) : ofLists set.highs set.lows = .ok set :=
  ofLists_of_paired set.paired

end ReadingSet

end PegBox
