/-
**Pegs are calibrated one by one, so parts can be calibrated apart.**

Nothing in a calibration looks from one peg to another: a reading is judged by itself, a midpoint is
made of the two readings of its peg, and a piece of a line of its midpoint.  Only positions are
counted through, where a fault names its peg.  So captures that are taken in two parts, one after
the other, are calibrated as the parts are, and a line of two rows of midpoints is made of the lines
of the rows; a refusal is that of the first part that is refused, and one of the second part names
its peg behind the pegs of the first.

Main definitions:

* `PegBox.InputFault.behind`, `PegBox.ReportError.behind` — a refusal that names its peg behind
  other pegs;
* `PegBox.inTurn` — **the answer for two parts** from the answers for each.

Main results:

* `PegBox.firstNonFinite?_append`, `PegBox.thresholdsFrom_append` — the two searches for a fault, of
  readings and of midpoints, go through the parts in turn;
* `PegBox.firstNonFinite?_eq_map`, `PegBox.thresholdsFrom_eq_mapError` — what a search finds behind
  other pegs;
* `PegBox.Calibration.compute_append`, `PegBox.render_hex_append` — midpoints and hexadecimal lines
  of two parts;
* `PegBox.pegs_independent` — **two parts are calibrated and shown as one**.
-/

import PegBox.Proofs.InputVerdict
import PegBox.Proofs.ThresholdRange

set_option autoImplicit false

namespace PegBox

/-! ### Two parts -/

/-- A fault that names its position behind other pegs. -/
def InputFault.behind (pegs : Nat) : InputFault → InputFault
  | .nonFinite index => .nonFinite (pegs + index)
  | fault => fault

/-- A refusal that names its peg behind other pegs. -/
def ReportError.behind (pegs : Nat) : ReportError → ReportError
  | .thresholdOutOfRange peg value => .thresholdOutOfRange (pegs + peg) value
  | refusal => refusal

/-- **The answer for two parts**, one after the other: the refusal of the first, or else that of the
second behind the pegs of the first, or else both values joined. -/
def inTurn {ε α : Type} (join : α → α → α) (behind : ε → ε) : Except ε α → Except ε α → Except ε α
  | .error refusal, _ => .error refusal
  | .ok _, .error refusal => .error (behind refusal)
  | .ok first, .ok second => .ok (join first second)

variable {highs lows moreHighs moreLows mids more : List Float}

/-! ### Captures in two parts -/

/-- The search for a reading that is not finite goes through the parts in turn. -/
theorem firstNonFinite?_append (start : Nat) (hlength : highs.length = lows.length) :
    firstNonFinite? start (highs ++ moreHighs) (lows ++ moreLows) =
      (firstNonFinite? start highs lows).or
        (firstNonFinite? (start + highs.length) moreHighs moreLows) := by
  induction highs generalizing lows start with
  | nil =>
      obtain rfl := List.eq_nil_of_length_eq_zero hlength.symm
      rfl
  | cons high highs ih =>
      cases lows with
      | nil => cases hlength
      | cons low lows =>
          rw [List.cons_append, List.cons_append, firstNonFinite?, firstNonFinite?]
          cases high.isFinite && low.isFinite with
          | false => rfl
          | true =>
              have hrest := ih (start + 1) (Nat.succ.inj hlength)
              rw [if_pos rfl, if_pos rfl, hrest, List.length_cons, Nat.add_assoc, Nat.add_comm 1]

/-- What the search finds behind other pegs. -/
theorem firstNonFinite?_eq_map (pegs : Nat) (highs lows : List Float) :
    firstNonFinite? pegs highs lows = (firstNonFinite? 0 highs lows).map (pegs + ·) := by
  rw [firstNonFinite?_eq_findIdx?, firstNonFinite?_zero]

namespace Calibration

variable (calibration : Calibration)

/-- The midpoints of two captures of the same length, at least one reading each: only a reading can
be at fault. -/
theorem compute_of_length_eq (hlength : highs.length = lows.length) (hne : highs ≠ []) :
    calibration.compute highs lows =
      match firstNonFinite? 0 highs lows with
      | none => .ok (calibration.midpoints highs lows)
      | some index => .error (.nonFinite index) := by
  have hlows : lows ≠ [] := by
    rintro rfl
    exact hne (List.eq_nil_of_length_eq_zero hlength)
  have hverdict : pairingFault? highs lows = (firstNonFinite? 0 highs lows).map .nonFinite := by
    rw [pairingFault?, if_neg (by simp [hne, hlows]), if_neg (not_not.2 hlength)]
  rw [compute, hverdict]
  cases firstNonFinite? 0 highs lows <;> rfl

theorem midpoints_append (hlength : highs.length = lows.length) :
    calibration.midpoints (highs ++ moreHighs) (lows ++ moreLows) =
      calibration.midpoints highs lows ++ calibration.midpoints moreHighs moreLows :=
  List.zipWith_append hlength

/-- The midpoints of captures in two parts. -/
theorem compute_append (hlength : highs.length = lows.length) (hne : highs ≠ [])
    (hmoreLength : moreHighs.length = moreLows.length) (hmoreNe : moreHighs ≠ []) :
    calibration.compute (highs ++ moreHighs) (lows ++ moreLows) =
      inTurn (· ++ ·) (InputFault.behind highs.length) (calibration.compute highs lows)
        (calibration.compute moreHighs moreLows) := by
  have hwhole : (highs ++ moreHighs).length = (lows ++ moreLows).length := by
    rw [List.length_append, List.length_append, hlength, hmoreLength]
  rw [calibration.compute_of_length_eq hwhole (List.append_ne_nil_of_left_ne_nil hne _),
    calibration.compute_of_length_eq hlength hne,
    calibration.compute_of_length_eq hmoreLength hmoreNe, firstNonFinite?_append 0 hlength,
    Nat.zero_add, firstNonFinite?_eq_map highs.length, calibration.midpoints_append hlength]
  cases firstNonFinite? 0 highs lows with
  | some index => rfl
  | none => cases firstNonFinite? 0 moreHighs moreLows <;> rfl

/-- Captures of the same length, at least one reading each, are refused for a reading of theirs. -/
theorem exists_index_of_compute (hlength : highs.length = lows.length) (hne : highs ≠ [])
    {fault : InputFault} (h : calibration.compute highs lows = .error fault) :
    ∃ index < highs.length, fault = .nonFinite index := by
  rw [calibration.compute_of_length_eq hlength hne] at h
  cases hindex : firstNonFinite? 0 highs lows with
  | none =>
      rw [hindex] at h
      cases h
  | some index =>
      rw [hindex] at h
      cases h
      obtain ⟨hat, -⟩ := (firstNonFinite?_eq_some_iff hlength).1 hindex
      obtain ⟨hzip, -⟩ := (nonFiniteAt_iff hlength).1 hat
      rw [List.length_zip, ← hlength, Nat.min_self] at hzip
      exact ⟨index, hzip, rfl⟩

end Calibration

/-! ### Lines of two rows of midpoints -/

/-- The search for a midpoint that does not fit goes through the parts in turn. -/
theorem thresholdsFrom_append (start : Nat) :
    thresholdsFrom start (mids ++ more) =
      inTurn (· ++ ·) id (thresholdsFrom start mids)
        (thresholdsFrom (start + mids.length) more) := by
  induction mids generalizing start with
  | nil =>
      rw [List.nil_append, thresholdsFrom, List.length_nil, Nat.add_zero]
      cases thresholdsFrom start more <;> rfl
  | cons mid mids ih =>
      rw [List.cons_append, thresholdsFrom, thresholdsFrom, ih, List.length_cons,
        Nat.add_right_comm start 1, ← Nat.add_assoc]
      cases thresholdOfMidpoint start mid with
      | error refusal => rfl
      | ok threshold =>
          cases thresholdsFrom (start + 1) mids with
          | error refusal => rfl
          | ok thresholds => cases thresholdsFrom (start + mids.length + 1) more <;> rfl

theorem thresholdOfMidpoint_eq_mapError (pegs peg : Nat) (mid : Float) :
    thresholdOfMidpoint (pegs + peg) mid =
      (thresholdOfMidpoint peg mid).mapError (ReportError.behind pegs) := by
  rw [thresholdOfMidpoint, thresholdOfMidpoint]
  split <;> rfl

/-- What the search finds behind other pegs. -/
theorem thresholdsFrom_eq_mapError (pegs start : Nat) (mids : List Float) :
    thresholdsFrom (pegs + start) mids =
      (thresholdsFrom start mids).mapError (ReportError.behind pegs) := by
  induction mids generalizing start with
  | nil => rfl
  | cons mid mids ih =>
      rw [thresholdsFrom, thresholdsFrom, thresholdOfMidpoint_eq_mapError, Nat.add_assoc, ih]
      cases thresholdOfMidpoint start mid with
      | error refusal => rfl
      | ok threshold => cases thresholdsFrom (start + 1) mids <;> rfl

theorem decimalLine_append (hmids : mids ≠ []) (hmore : more ≠ []) (separator : String) :
    decimalLine (mids ++ more) separator =
      decimalLine mids separator ++ separator ++ decimalLine more separator := by
  have hpieces : ∀ {mids : List Float}, mids ≠ [] →
      (mids.map fun mid => toString (Binary64.truncate mid)) ≠ [] := by
    intro mids h
    exact mt List.map_eq_nil_iff.1 h
  rw [decimalLine, List.map_append,
    String.intercalate_append_of_ne_nil (hpieces hmids) (hpieces hmore)]
  rfl

/-- The hexadecimal line of two rows of midpoints. -/
theorem render_hex_append (hmids : mids ≠ []) (hmore : more ≠ []) (separator : String) :
    render (mids ++ more) .hex separator =
      inTurn (fun first second => first ++ separator ++ second) (ReportError.behind mids.length)
        (render mids .hex separator) (render more .hex separator) := by
  have hpieces : ∀ {mids : List Float} {words : List UInt16}, mids ≠ [] →
      thresholdsFrom 0 mids = .ok words → words.map wireHex ≠ [] := by
    intro mids words hne hwords hnil
    have hlength := length_thresholdsFrom hwords
    rw [List.map_eq_nil_iff.1 hnil] at hlength
    exact hne (List.eq_nil_of_length_eq_zero hlength.symm)
  have hsecond := thresholdsFrom_eq_mapError mids.length 0 more
  rw [Nat.add_zero] at hsecond
  rw [render, render, render, thresholdsFrom_append, Nat.zero_add, hsecond]
  cases hfirst : thresholdsFrom 0 mids with
  | error refusal => rfl
  | ok words =>
      cases hrest : thresholdsFrom 0 more with
      | error refusal => rfl
      | ok moreWords =>
          change Except.ok (separator.intercalate ((words ++ moreWords).map wireHex)) = _
          rw [List.map_append,
            String.intercalate_append_of_ne_nil (hpieces hmids hfirst) (hpieces hmore hrest)]
          rfl

/-- A hexadecimal line is refused for a midpoint of its own. -/
theorem exists_peg_of_render_hex {separator : String} {refusal : ReportError}
    (h : render mids .hex separator = .error refusal) :
    ∃ peg < mids.length, ∃ value, refusal = .thresholdOutOfRange peg value := by
  obtain ⟨peg, mid, hfirst, rfl⟩ := render_hex_eq_error_iff.1 h
  obtain ⟨hpeg, -⟩ := List.getElem?_eq_some_iff.1 hfirst.at_peg
  exact ⟨peg, hpeg, _, rfl⟩

/-! ### Parts and wholes -/

/-- **Two parts are calibrated and shown as one.**  Captures of two parts, each with as many lows as
highs and at least one, are calibrated as the parts are in turn, whatever the weights and the
readings; such captures are refused only for a position at which a reading is not finite.  Two rows
of midpoints, each with at least one, make a decimal line of their two lines with the separator
between them, and so do hexadecimal lines, again as the rows do in turn; such a line is refused only
for a peg whose midpoint does not fit. -/
theorem pegs_independent :
    (∀ (calibration : Calibration) (highs lows moreHighs moreLows : List Float),
      highs.length = lows.length → highs ≠ [] →
      moreHighs.length = moreLows.length → moreHighs ≠ [] →
        calibration.compute (highs ++ moreHighs) (lows ++ moreLows) =
          inTurn (· ++ ·) (InputFault.behind highs.length) (calibration.compute highs lows)
            (calibration.compute moreHighs moreLows)) ∧
    (∀ (calibration : Calibration) (highs lows : List Float) (fault : InputFault),
      highs.length = lows.length → highs ≠ [] → calibration.compute highs lows = .error fault →
        ∃ index < highs.length, fault = .nonFinite index) ∧
    (∀ (mids more : List Float) (separator : String), mids ≠ [] → more ≠ [] →
      decimalLine (mids ++ more) separator =
          decimalLine mids separator ++ separator ++ decimalLine more separator ∧
        render (mids ++ more) .hex separator =
          inTurn (fun first second => first ++ separator ++ second)
            (ReportError.behind mids.length) (render mids .hex separator)
            (render more .hex separator)) ∧
    ∀ (mids : List Float) (separator : String) (refusal : ReportError),
      render mids .hex separator = .error refusal →
        ∃ peg < mids.length, ∃ value, refusal = .thresholdOutOfRange peg value := by
  refine ⟨?_, ?_, ?_, fun mids separator refusal => exists_peg_of_render_hex⟩
  · intro calibration highs lows moreHighs moreLows hlength hne hmoreLength hmoreNe
    exact calibration.compute_append hlength hne hmoreLength hmoreNe
  · intro calibration highs lows fault hlength hne hfault
    exact calibration.exists_index_of_compute hlength hne hfault
  · intro mids more separator hmids hmore
    exact ⟨decimalLine_append hmids hmore separator, render_hex_append hmids hmore separator⟩

/-- A second part with an infinite reading, and one with a midpoint below zero. -/
theorem pegs_independent_second_part :
    let infinity : Float := .ofBits 0x7FF0000000000000
    [(833 : Float), 712].length = [(40 : Float), 34].length ∧ [(833 : Float), 712] ≠ [] ∧
      [700, infinity].length = [(33 : Float), 34].length ∧ [700, infinity] ≠ [] ∧
      Calibration.standard.compute [700, infinity] [33, 34] = .error (.nonFinite 1) ∧
      Calibration.standard.compute ([833, 712] ++ [700, infinity]) ([40, 34] ++ [33, 34]) =
        .error (.nonFinite 3) ∧
      decimalLine ([198.75, 300] ++ [12, -1.5]) ", " = "198, 300" ++ ", " ++ "12, -1" ∧
      render ([198.75, 300] ++ [12, -1.5]) .hex ", " = .error (.thresholdOutOfRange 3 (-1)) := by
  intro infinity
  obtain ⟨hcompute, -, hlines, -⟩ := pegs_independent
  have hlength : [(833 : Float), 712].length = [(40 : Float), 34].length := by simp
  have hmoreLength : [700, infinity].length = [(33 : Float), 34].length := by simp
  have hne : [(833 : Float), 712] ≠ [] := List.cons_ne_nil _ _
  have hmoreNe : [700, infinity] ≠ [] := List.cons_ne_nil _ _
  have hverdict : pairingFault? [833, 712] [40, 34] = none := by decide +kernel
  have hmoreVerdict : pairingFault? [700, infinity] [33, 34] = some (.nonFinite 1) := by
    decide +kernel
  have hfirst : Calibration.standard.compute [833, 712] [40, 34] =
      .ok (Calibration.standard.midpoints [833, 712] [40, 34]) := by
    rw [Calibration.compute, hverdict]
  have hsecond : Calibration.standard.compute [700, infinity] [33, 34] =
      .error (.nonFinite 1) := by
    rw [Calibration.compute, hmoreVerdict]
  obtain ⟨hdecimal, hhex⟩ := hlines [198.75, 300] [12, -1.5] ", " (List.cons_ne_nil _ _)
    (List.cons_ne_nil _ _)
  refine ⟨hlength, hne, hmoreLength, hmoreNe, hsecond, ?_, ?_, ?_⟩
  · rw [hcompute .standard [833, 712] [40, 34] [700, infinity] [33, 34] hlength hne hmoreLength
      hmoreNe, hfirst, hsecond]
    rfl
  · rw [hdecimal]
    decide +kernel
  · rw [hhex]
    decide +kernel

end PegBox
