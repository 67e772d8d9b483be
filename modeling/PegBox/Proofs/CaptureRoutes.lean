/-
**The unchecked midpoints are the checked ones.**

Midpoints of a reading set are computed without a look at its readings; midpoints of bare lists are
computed after a check.  That the first may do without the check is a matter of how reading sets
come about: from lists, from counts, from structured values, from bench captures, from files, and
from reading sets that are there already.  Each of these ways brings two captures, and leads to a
reading set exactly where these pair up; so whatever the weights are, the check would find nothing,
and both computations go through the same pairs.

Main definitions:

* `PegBox.Route` — **a way to a reading set**;
* `PegBox.Route.set?` — the reading set that a way leads to;
* `PegBox.Route.Brings` — the captures that a way brings, not judged yet.

Main results:

* `PegBox.Route.set?_of_brings`, `PegBox.Route.exists_brings` — a way leads to what its captures
  form, and nowhere without captures;
* `PegBox.Calibration.compute_of_pairsUp` — captures that pair up have midpoints;
* `PegBox.unchecked_agrees_with_checked` — **both computations agree** on every reading set.
-/

import PegBox.Proofs.InputVerdict
import PegBox.Source

set_option autoImplicit false

namespace PegBox

/-! ### Ways to a reading set -/

/-- **A way to a reading set.** -/
inductive Route where
  | lists (highs lows : List Float)
  | counts (highs lows : List UInt16)
  | form (datum : Datum)
  | preset (capture : Preset)
  | file (path : String)
  /-- The reading set that another way leads to, taken as a source of its own. -/
  | again (route : Route)

namespace Route

/-- The reading set that a way leads to, if it leads to one. -/
def set? (files : Files) : Route → Option ReadingSet
  | .lists highs lows => (ReadingSet.ofLists highs lows).toOption
  | .counts highs lows => (ReadingSet.ofCounts highs lows).toOption
  | .form datum => (ReadingSet.ofDatum datum).toOption
  | .preset capture => ((Source.preset capture).load files).toOption
  | .file path => ((Source.file path).load files).toOption
  | .again route =>
    match route.set? files with
    | none => none
    | some set => ((Source.inline set).load files).toOption

/-- The captures that a way brings, not judged yet. -/
inductive Brings (files : Files) : Route → List Float → List Float → Prop where
  | lists (highs lows : List Float) : Brings files (.lists highs lows) highs lows
  | counts (highs lows : List UInt16) :
      Brings files (.counts highs lows) (highs.map UInt16.toFloat) (lows.map UInt16.toFloat)
  | form {datum : Datum} {highs lows : List Float}
      (hread : ReadingSet.capturesOf ReadingSet.looseRecord datum = .ok (highs, lows)) :
      Brings files (.form datum) highs lows
  | preset (capture : Preset) :
      Brings files (.preset capture) (capture.highs.map UInt16.toFloat)
        (capture.lows.map UInt16.toFloat)
  | file {path text : String} {highs lows : List Float} (htext : files.readText path = .ok text)
      (hread : readDocument (ReadingSet.capturesOf ReadingSet.strictRecord) text =
        .ok (highs, lows)) :
      Brings files (.file path) highs lows
  | again {route : Route} {highs lows : List Float} (hbrings : Brings files route highs lows) :
      Brings files (.again route) highs lows

variable {files : Files} {route : Route} {highs lows : List Float} {set : ReadingSet}

theorem toOption_ofLists_eq_some_iff :
    (ReadingSet.ofLists highs lows).toOption = some set ↔
      PairsUp highs lows ∧ set.highs = highs ∧ set.lows = lows := by
  constructor
  · intro h
    cases hlists : ReadingSet.ofLists highs lows with
    | error fault =>
        rw [hlists] at h
        cases h
    | ok formed =>
        rw [hlists] at h
        cases h
        exact ⟨(followsVerdict_ofLists highs lows).accepts_iff.1 ⟨set, hlists⟩,
          lists_of_ofLists hlists⟩
  · rintro ⟨-, rfl, rfl⟩
    rw [ReadingSet.ofLists_self]
    rfl

/-- A way leads to the reading set that its captures form. -/
theorem set?_of_brings (h : route.Brings files highs lows) :
    route.set? files = (ReadingSet.ofLists highs lows).toOption := by
  induction h with
  | lists => rfl
  | counts => rfl
  | form hread =>
      rw [set?, ofDatum_of_capturesOf hread]
      cases ReadingSet.ofLists _ _ <;> rfl
  | preset capture =>
      rw [set?, Source.load, Preset.readings, ReadingSet.ofCounts]
      cases ReadingSet.ofLists _ _ <;> rfl
  | file htext hread =>
      rw [set?, Source.load, loadReadingsFile, htext]
      dsimp only
      rw [hread]
      dsimp only
      cases ReadingSet.ofLists _ _ <;> rfl
  | again _ ih =>
      rw [set?, ih]
      cases ReadingSet.ofLists _ _ <;> rfl

/-- A way that leads to a reading set brings captures. -/
theorem exists_brings (h : route.set? files = some set) :
    ∃ highs lows, route.Brings files highs lows := by
  induction route generalizing set with
  | lists highs lows => exact ⟨_, _, .lists highs lows⟩
  | counts highs lows => exact ⟨_, _, .counts highs lows⟩
  | form datum =>
      cases hread : ReadingSet.capturesOf ReadingSet.looseRecord datum with
      | error fault =>
          rw [set?, ReadingSet.ofDatum, hread] at h
          cases h
      | ok captures => exact ⟨_, _, .form hread⟩
  | preset capture => exact ⟨_, _, .preset capture⟩
  | file path =>
      rw [set?, Source.load, loadReadingsFile] at h
      cases htext : files.readText path with
      | error fault =>
          rw [htext] at h
          cases h
      | ok text =>
          rw [htext] at h
          dsimp only at h
          cases hread : readDocument (ReadingSet.capturesOf ReadingSet.strictRecord) text with
          | error fault =>
              rw [hread] at h
              cases h
          | ok captures => exact ⟨_, _, .file htext hread⟩
  | again route ih =>
      rw [set?] at h
      cases hroute : route.set? files with
      | none =>
          rw [hroute] at h
          cases h
      | some first =>
          obtain ⟨highs, lows, hbrings⟩ := ih hroute
          exact ⟨highs, lows, .again hbrings⟩

/-- A way leads to a reading set exactly where it brings captures that pair up, and the reading set
keeps them as they are. -/
theorem set?_eq_some_iff :
    route.set? files = some set ↔
      ∃ highs lows, route.Brings files highs lows ∧ PairsUp highs lows ∧
        set.highs = highs ∧ set.lows = lows := by
  constructor
  · intro h
    obtain ⟨highs, lows, hbrings⟩ := exists_brings h
    rw [set?_of_brings hbrings, toOption_ofLists_eq_some_iff] at h
    exact ⟨highs, lows, hbrings, h⟩
  · rintro ⟨highs, lows, hbrings, h⟩
    rw [set?_of_brings hbrings, toOption_ofLists_eq_some_iff]
    exact h

end Route

/-! ### Both computations -/

namespace Calibration

/-- Captures that pair up have midpoints, whatever the weights are. -/
theorem compute_of_pairsUp {highs lows : List Float} (h : PairsUp highs lows)
    (calibration : Calibration) :
    calibration.compute highs lows = .ok (calibration.midpoints highs lows) := by
  rw [compute, pairingFault?_eq_none_iff_pairsUp.2 h]

/-- Where both captures have a reading, there is its midpoint. -/
theorem getElem?_midpoints (calibration : Calibration) {highs lows : List Float} {peg : Nat}
    {high low : Float} (hhigh : highs[peg]? = some high) (hlow : lows[peg]? = some low) :
    (calibration.midpoints highs lows)[peg]? = some (calibration.midpoint high low) := by
  rw [midpoints, List.getElem?_zipWith, hhigh, hlow]

end Calibration

/-- **Both computations agree.**  A way leads to a reading set exactly where it brings captures that
pair up; then these are kept, so that every reading set there is has captures that pair up.  For all
weights, bare lists of its readings pass the check and have the midpoints that the reading set has
without one: as many as it has pegs, each of them the midpoint of the two readings at its place. -/
theorem unchecked_agrees_with_checked (files : Files) (route : Route) (set : ReadingSet) :
    (route.set? files = some set ↔
      ∃ highs lows, route.Brings files highs lows ∧ PairsUp highs lows ∧
        set.highs = highs ∧ set.lows = lows) ∧
    (route.set? files = some set →
      PairsUp set.highs set.lows ∧
      ∀ calibration : Calibration,
        calibration.compute set.highs set.lows = .ok (calibration.apply set) ∧
        (calibration.apply set).length = set.size ∧
        ∀ peg < set.size, ∃ high low, set.highs[peg]? = some high ∧ set.lows[peg]? = some low ∧
          (calibration.apply set)[peg]? = some (calibration.midpoint high low)) := by
  refine ⟨Route.set?_eq_some_iff, ?_⟩
  intro h
  have hpairs : PairsUp set.highs set.lows := by
    obtain ⟨highs, lows, -, hpairs, rfl, rfl⟩ := Route.set?_eq_some_iff.1 h
    exact hpairs
  refine ⟨hpairs, fun calibration => ⟨?_, calibration.length_apply set, ?_⟩⟩
  · rw [calibration.compute_of_pairsUp hpairs, calibration.apply_eq_midpoints]
  · intro peg hpeg
    obtain ⟨high, low, hhigh, hlow⟩ := set.exists_readings hpeg
    refine ⟨high, low, hhigh, hlow, ?_⟩
    rw [calibration.apply_eq_midpoints]
    exact calibration.getElem?_midpoints hhigh hlow

end PegBox
