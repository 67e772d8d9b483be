/-
**Which midpoints the box can store.**

A threshold is a 16-bit word, so a midpoint can be stored exactly where its whole part is one.  The
functions that store midpoints, and the two formats that show what would be stored, all go through
the same list of thresholds; they agree on what they store and on the first midpoint that they
refuse.

Main definitions:

* `PegBox.Storable` — **a midpoint that the box can store**;
* `PegBox.storedWord` — the word that is stored for it.

Main results:

* `PegBox.thresholdsFrom_eq_ok_iff` — the thresholds of a list exist exactly where every midpoint
  can be stored, and are the stored words;
* `PegBox.Thresholds.values_ofMidpoints` — one midpoint for each peg is stored as that list;
* `PegBox.Thresholds.ofMidpoints_of_length_ne` — any other number of midpoints is refused.
-/

import PegBox.Line

set_option autoImplicit false

namespace PegBox

/-! ### One midpoint -/

/-- **A midpoint that the box can store**: its whole part fits a 16-bit word. -/
def Storable (mid : Float) : Prop :=
  0 ≤ Binary64.truncate mid ∧ Binary64.truncate mid < 65536

/-- The word that is stored for a midpoint. -/
def storedWord (mid : Float) : UInt16 := UInt16.ofNat (Binary64.truncate mid).toNat

theorem toNat_storedWord {mid : Float} (h : Storable mid) :
    ((storedWord mid).toNat : Int) = Binary64.truncate mid := by
  obtain ⟨hlow, hhigh⟩ := h
  rw [storedWord, UInt16.toNat_ofNat_of_lt' (by rw [UInt16.size]; omega), Int.toNat_of_nonneg hlow]

theorem thresholdOfMidpoint_of_storable {mid : Float} (peg : Nat) (h : Storable mid) :
    thresholdOfMidpoint peg mid = .ok (storedWord mid) := by
  rw [thresholdOfMidpoint]
  exact if_pos h

theorem thresholdOfMidpoint_of_not_storable {mid : Float} (peg : Nat) (h : ¬ Storable mid) :
    thresholdOfMidpoint peg mid = .error (.thresholdOutOfRange peg (Binary64.truncate mid)) := by
  rw [thresholdOfMidpoint]
  exact if_neg h

/-! ### Lists of midpoints -/

theorem thresholdsFrom_of_storable {mids : List Float} (peg : Nat)
    (h : ∀ mid ∈ mids, Storable mid) : thresholdsFrom peg mids = .ok (mids.map storedWord) := by
  induction mids generalizing peg with
  | nil => rfl
  | cons mid rest ih =>
      rw [List.forall_mem_cons] at h
      rw [thresholdsFrom, thresholdOfMidpoint_of_storable peg h.1]
      dsimp only
      rw [ih (peg + 1) h.2]
      rfl

theorem storable_of_thresholdsFrom {mids : List Float} {peg : Nat} {thresholds : List UInt16}
    (h : thresholdsFrom peg mids = .ok thresholds) : ∀ mid ∈ mids, Storable mid := by
  induction mids generalizing peg thresholds with
  | nil =>
      intro mid hmid
      exact absurd hmid List.not_mem_nil
  | cons mid rest ih =>
      rw [List.forall_mem_cons]
      rw [thresholdsFrom] at h
      by_cases hmid : Storable mid
      · rw [thresholdOfMidpoint_of_storable peg hmid] at h
        cases hrest : thresholdsFrom (peg + 1) rest with
        | error refusal =>
            rw [hrest] at h
            cases h
        | ok values => exact ⟨hmid, ih hrest⟩
      · rw [thresholdOfMidpoint_of_not_storable peg hmid] at h
        cases h

/-- The thresholds of a list exist exactly where every midpoint can be stored. -/
theorem thresholdsFrom_eq_ok_iff {mids : List Float} {peg : Nat} {thresholds : List UInt16} :
    thresholdsFrom peg mids = .ok thresholds ↔
      (∀ mid ∈ mids, Storable mid) ∧ thresholds = mids.map storedWord := by
  constructor
  · intro h
    have hmids := storable_of_thresholdsFrom h
    rw [thresholdsFrom_of_storable peg hmids, Except.ok.injEq] at h
    exact ⟨hmids, h.symm⟩
  · rintro ⟨hmids, rfl⟩
    exact thresholdsFrom_of_storable peg hmids

namespace Thresholds

/-- One midpoint for each peg is stored as the list of its thresholds, or refused as that list
is. -/
theorem values_ofMidpoints {mids : List Float} (h : mids.length = pegCount) :
    (ofMidpoints mids).map values = thresholdsFrom 0 mids := by
  -- one midpoint for each peg is as much as the row has room for
  have hitems := items_storeFrom mids 0 .empty (by simp [h])
  have hvalues : (thresholdsFrom 0 mids).map ((Row.empty : Row UInt16 pegCount).items ++ ·) =
      thresholdsFrom 0 mids := by
    cases thresholdsFrom 0 mids <;> rfl
  rw [hvalues] at hitems
  rw [← hitems, ofMidpoints, dif_pos h]
  split
  · next refusal hrow => exact (congrArg (Except.map Row.items) hrow).symm
  · next row hrow => exact (congrArg (Except.map Row.items) hrow).symm

/-- Any other number of midpoints is refused, whatever they are. -/
theorem ofMidpoints_of_length_ne {mids : List Float} (h : mids.length ≠ pegCount) :
    ofMidpoints mids = .error (.pegCountMismatch pegCount mids.length) := by
  rw [ofMidpoints, dif_neg h]

theorem thresholdsFrom_of_ofMidpoints {mids : List Float} {thresholds : Thresholds}
    (h : ofMidpoints mids = .ok thresholds) : thresholdsFrom 0 mids = .ok thresholds.values := by
  by_cases hlength : mids.length = pegCount
  · rw [← values_ofMidpoints hlength, h]
    rfl
  · rw [ofMidpoints_of_length_ne hlength] at h
    cases h

theorem ofMidpoints_of_storable {mids : List Float} (hlength : mids.length = pegCount)
    (h : ∀ mid ∈ mids, Storable mid) :
    ∃ thresholds, ofMidpoints mids = .ok thresholds ∧ thresholds.values = mids.map storedWord := by
  have hvalues := values_ofMidpoints hlength
  rw [thresholdsFrom_of_storable 0 h] at hvalues
  cases hstored : ofMidpoints mids with
  | error refusal =>
      rw [hstored] at hvalues
      cases hvalues
  | ok thresholds =>
      rw [hstored] at hvalues
      exact ⟨thresholds, rfl, Except.ok.inj hvalues⟩

end Thresholds

/-! ### Lines that show what would be stored -/

theorem render_hex_of_storable {mids : List Float} (separator : String)
    (h : ∀ mid ∈ mids, Storable mid) :
    render mids .hex separator =
      .ok (separator.intercalate ((mids.map storedWord).map wireHex)) := by
  rw [render, thresholdsFrom_of_storable 0 h]

theorem render_console_of_storable {mids : List Float} (separator : String)
    (hlength : mids.length = pegCount) (h : ∀ mid ∈ mids, Storable mid) :
    ∃ line, render mids .console separator = .ok line := by
  obtain ⟨thresholds, hstored, -⟩ := Thresholds.ofMidpoints_of_storable hlength h
  refine ⟨consoleCall thresholds, ?_⟩
  rw [render, hstored]

theorem render_console_of_length_ne {mids : List Float} (separator : String)
    (h : mids.length ≠ pegCount) :
    render mids .console separator = .error (.pegCountMismatch pegCount mids.length) := by
  rw [render, Thresholds.ofMidpoints_of_length_ne h]

end PegBox
