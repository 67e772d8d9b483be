/-
**One verdict on two captures, wherever they come in.**

Captures are checked where a reading set is built, where one is read from a structured value, and
where midpoints are computed from bare lists.  This module states what it is for two captures to
pair up, and which fault is to be named where they do not, without the code that looks for it: the
faults overlap, so each one is stated with the absence of those that go before it.  All three ways
accept the same captures and name the same fault.

Main definitions:

* `PegBox.PairsUp` — **two captures that pair up**;
* `PegBox.NonFiniteAt` — a position at which a reading is not a finite number;
* `PegBox.HasFault` — **the fault of two captures** that do not pair up;
* `PegBox.FollowsVerdict` — an answer that accepts and refuses accordingly.

Main results:

* `PegBox.firstNonFinite?_eq_some_iff` — the position that is found is the least one;
* `PegBox.pairingFault?_eq_some_iff` — the fault that is found is the one to be named;
* `PegBox.verdict_everywhere` — **one verdict**, wherever captures come in.
-/

import PegBox.Calibration
import PegBox.Proofs.CaptureForms

set_option autoImplicit false

namespace PegBox

variable {highs lows : List Float}

/-! ### The verdict, stated -/

/-- **Two captures that pair up.** -/
structure PairsUp (highs lows : List Float) : Prop where
  highs_ne : highs ≠ []
  lows_ne : lows ≠ []
  length_eq : highs.length = lows.length
  finite_highs : ∀ reading ∈ highs, reading.isFinite = true
  finite_lows : ∀ reading ∈ lows, reading.isFinite = true

/-- At this position one of the two readings is not a finite number. -/
def NonFiniteAt (highs lows : List Float) (index : Nat) : Prop :=
  ∃ reading, (highs[index]? = some reading ∨ lows[index]? = some reading) ∧
    reading.isFinite = false

/-- **The fault of two captures** that do not pair up: that one of them is empty; if none is, that
they are not equally long; if they are, the least position at which a reading is not finite. -/
inductive HasFault (highs lows : List Float) : InputFault → Prop where
  | empty (hempty : highs = [] ∨ lows = []) : HasFault highs lows .empty
  | lengthMismatch (hhighs : highs ≠ []) (hlows : lows ≠ [])
      (hlength : highs.length ≠ lows.length) :
      HasFault highs lows (.lengthMismatch highs.length lows.length)
  | nonFinite (hhighs : highs ≠ []) (hlows : lows ≠ []) (hlength : highs.length = lows.length)
      {index : Nat} (hindex : NonFiniteAt highs lows index)
      (hleast : ∀ earlier < index, ¬ NonFiniteAt highs lows earlier) :
      HasFault highs lows (.nonFinite index)

/-! ### The least position -/

/-- Whether one of two readings is not a finite number. -/
def isNonFinitePair (reading : Float × Float) : Bool := !(reading.1.isFinite && reading.2.isFinite)

/-- The search of the pairs for one at fault, counted from where the count starts. -/
theorem firstNonFinite?_eq_findIdx? (start : Nat) (highs lows : List Float) :
    firstNonFinite? start highs lows =
      ((highs.zip lows).findIdx? isNonFinitePair).map (start + ·) := by
  induction highs generalizing start lows with
  | nil => rfl
  | cons high highs ih =>
      cases lows with
      | nil => rfl
      | cons low lows =>
          rw [firstNonFinite?, ih, List.zip_cons_cons, List.findIdx?_cons, isNonFinitePair]
          cases high.isFinite && low.isFinite with
          | false => rfl
          | true =>
              simp only [Bool.not_true, Bool.false_eq_true, if_true, if_false, Option.map_map]
              refine congrArg (Option.map · _) (funext fun index => ?_)
              change start + 1 + index = start + (index + 1)
              omega

theorem firstNonFinite?_zero (highs lows : List Float) :
    firstNonFinite? 0 highs lows = (highs.zip lows).findIdx? isNonFinitePair := by
  have hstart : (0 + · : Nat → Nat) = id := funext Nat.zero_add
  rw [firstNonFinite?_eq_findIdx?, hstart, Option.map_id, id_eq]

/-- A reading that is not finite stands in a pair at fault. -/
theorem nonFiniteAt_iff (hlength : highs.length = lows.length) {index : Nat} :
    NonFiniteAt highs lows index ↔
      ∃ h : index < (highs.zip lows).length, isNonFinitePair (highs.zip lows)[index] = true := by
  by_cases hindex : index < highs.length
  · have hlow : index < lows.length := by omega
    have hzip : index < (highs.zip lows).length := by
      rw [List.length_zip]
      omega
    rw [exists_prop_of_true hzip, List.getElem_zip, isNonFinitePair]
    simp only [NonFiniteAt, List.getElem?_eq_getElem hindex, List.getElem?_eq_getElem hlow,
      Option.some.injEq, Bool.not_eq_true', Bool.and_eq_false_iff]
    constructor
    · rintro ⟨reading, rfl | rfl, hreading⟩
      · exact .inl hreading
      · exact .inr hreading
    · rintro (hhigh | hlow)
      · exact ⟨_, .inl rfl, hhigh⟩
      · exact ⟨_, .inr rfl, hlow⟩
  · refine iff_of_false ?_ ?_
    · rintro ⟨reading, hreading, -⟩
      rw [List.getElem?_eq_none (by omega), List.getElem?_eq_none (by omega)] at hreading
      simp at hreading
    · rintro ⟨h, -⟩
      rw [List.length_zip] at h
      omega

/-- The position that is found is the least one at which a reading is not finite. -/
theorem firstNonFinite?_eq_some_iff (hlength : highs.length = lows.length) {index : Nat} :
    firstNonFinite? 0 highs lows = some index ↔
      NonFiniteAt highs lows index ∧ ∀ earlier < index, ¬ NonFiniteAt highs lows earlier := by
  rw [firstNonFinite?_zero, List.findIdx?_eq_some_iff_getElem]
  simp only [nonFiniteAt_iff hlength]
  constructor
  · rintro ⟨hindex, hfault, hleast⟩
    refine ⟨⟨hindex, hfault⟩, ?_⟩
    rintro earlier hearlier ⟨_, hbefore⟩
    exact hleast earlier hearlier hbefore
  · rintro ⟨⟨hindex, hfault⟩, hleast⟩
    refine ⟨hindex, hfault, ?_⟩
    intro earlier hearlier hbefore
    exact hleast earlier hearlier ⟨_, hbefore⟩

/-! ### The verdict, found -/

/-- No fault is found exactly where the captures pair up. -/
theorem pairingFault?_eq_none_iff_pairsUp :
    pairingFault? highs lows = none ↔ PairsUp highs lows := by
  rw [pairingFault?_eq_none_iff]
  constructor
  · rintro ⟨hne, hlength, hhighs, hlows⟩
    refine ⟨hne, ?_, hlength, hhighs, hlows⟩
    rintro rfl
    exact hne (List.eq_nil_of_length_eq_zero hlength)
  · intro h
    exact ⟨h.highs_ne, h.length_eq, h.finite_highs, h.finite_lows⟩

/-- The fault that is found is the one to be named. -/
theorem pairingFault?_eq_some_iff {fault : InputFault} :
    pairingFault? highs lows = some fault ↔ HasFault highs lows fault := by
  rw [pairingFault?]
  by_cases hempty : highs = [] ∨ lows = []
  · have hisEmpty : (highs.isEmpty || lows.isEmpty) = true := by simpa using hempty
    rw [if_pos hisEmpty, Option.some.injEq]
    constructor
    · rintro rfl
      exact .empty hempty
    · intro h
      cases h with
      | empty _ => rfl
      | lengthMismatch hhighs hlows _ => exact absurd hempty (by simp [hhighs, hlows])
      | nonFinite hhighs hlows _ _ _ => exact absurd hempty (by simp [hhighs, hlows])
  · obtain ⟨hhighs, hlows⟩ := not_or.1 hempty
    have hisEmpty : ¬ (highs.isEmpty || lows.isEmpty) = true := by simpa using hempty
    rw [if_neg hisEmpty]
    by_cases hlength : highs.length = lows.length
    · rw [if_neg (not_not.2 hlength), Option.map_eq_some_iff]
      constructor
      · rintro ⟨index, hindex, rfl⟩
        obtain ⟨hat, hleast⟩ := (firstNonFinite?_eq_some_iff hlength).1 hindex
        exact .nonFinite hhighs hlows hlength hat hleast
      · intro h
        cases h with
        | empty h => exact absurd h hempty
        | lengthMismatch _ _ h => exact absurd hlength h
        | nonFinite _ _ _ hat hleast =>
            exact ⟨_, (firstNonFinite?_eq_some_iff hlength).2 ⟨hat, hleast⟩, rfl⟩
    · rw [if_pos hlength, Option.some.injEq]
      constructor
      · rintro rfl
        exact .lengthMismatch hhighs hlows hlength
      · intro h
        cases h with
        | empty h => exact absurd h hempty
        | lengthMismatch _ _ _ => rfl
        | nonFinite _ _ h _ _ => exact absurd h hlength

/-! ### Answers that follow the verdict -/

/-- **An answer that follows the verdict** on two captures: it accepts them exactly where they pair
up, and refuses them exactly with the fault that they have. -/
structure FollowsVerdict {ε α : Type} (highs lows : List Float) (refusal : InputFault → ε)
    (answer : Except ε α) : Prop where
  accepts_iff : (∃ value, answer = .ok value) ↔ PairsUp highs lows
  refuses_iff : ∀ error, answer = .error error ↔
    ∃ fault, HasFault highs lows fault ∧ error = refusal fault

theorem followsVerdict_ofLists (highs lows : List Float) :
    FollowsVerdict highs lows id (ReadingSet.ofLists highs lows) := by
  cases hverdict : pairingFault? highs lows with
  | none =>
      have hpairs := pairingFault?_eq_none_iff_pairsUp.1 hverdict
      rw [ReadingSet.ofLists_of_paired hverdict]
      refine ⟨iff_of_true ⟨_, rfl⟩ hpairs, fun error => iff_of_false (by simp) ?_⟩
      rintro ⟨fault, hfault, -⟩
      rw [← pairingFault?_eq_some_iff, hverdict] at hfault
      cases hfault
  | some fault =>
      rw [ReadingSet.ofLists_of_fault hverdict]
      refine ⟨iff_of_false (by simp) ?_, fun error => ?_⟩
      · intro hpairs
        rw [← pairingFault?_eq_none_iff_pairsUp, hverdict] at hpairs
        cases hpairs
      · simp only [← pairingFault?_eq_some_iff, hverdict, Option.some.injEq, Except.error.injEq,
          id_eq]
        constructor
        · rintro rfl
          exact ⟨_, rfl, rfl⟩
        · rintro ⟨_, rfl, rfl⟩
          rfl

/-- What is made of accepted captures does not change the verdict. -/
theorem FollowsVerdict.map {ε α β : Type} {refusal : InputFault → ε} {answer : Except ε α}
    (h : FollowsVerdict highs lows refusal answer) (make : α → β) :
    FollowsVerdict highs lows refusal (answer.map make) := by
  obtain ⟨haccepts, hrefuses⟩ := h
  cases answer with
  | error error =>
      exact ⟨by simpa [Except.map] using haccepts, by simpa [Except.map] using hrefuses⟩
  | ok value =>
      exact ⟨by simpa [Except.map] using haccepts, by simpa [Except.map] using hrefuses⟩

/-- Nor do the words of the refusal. -/
theorem FollowsVerdict.mapError {ε δ α : Type} {refusal : InputFault → ε} {answer : Except ε α}
    (h : FollowsVerdict highs lows refusal answer) (wrap : ε → δ) :
    FollowsVerdict highs lows (wrap ∘ refusal) (answer.mapError wrap) := by
  obtain ⟨haccepts, hrefuses⟩ := h
  cases answer with
  | error error =>
      refine ⟨by simpa [Except.mapError] using haccepts, fun wrapped => ?_⟩
      constructor
      · intro hwrapped
        cases hwrapped
        obtain ⟨fault, hfault, rfl⟩ := (hrefuses error).1 rfl
        exact ⟨fault, hfault, rfl⟩
      · rintro ⟨fault, hfault, rfl⟩
        cases (hrefuses _).2 ⟨fault, hfault, rfl⟩
        rfl
  | ok value =>
      refine ⟨by simpa [Except.mapError] using haccepts, fun wrapped => ?_⟩
      refine iff_of_false (by simp [Except.mapError]) ?_
      rintro ⟨fault, hfault, -⟩
      cases (hrefuses _).2 ⟨fault, hfault, rfl⟩

/-- A structured value is read as its captures are judged. -/
theorem ofDatum_of_capturesOf {datum : Datum}
    (h : ReadingSet.capturesOf ReadingSet.looseRecord datum = .ok (highs, lows)) :
    ReadingSet.ofDatum datum = (ReadingSet.ofLists highs lows).mapError .unpaired := by
  rw [ReadingSet.ofDatum, h]
  dsimp only
  cases ReadingSet.ofLists highs lows <;> rfl

theorem lists_of_ofLists {set : ReadingSet} (h : ReadingSet.ofLists highs lows = .ok set) :
    set.highs = highs ∧ set.lows = lows := by
  cases hverdict : pairingFault? highs lows with
  | none =>
      rw [ReadingSet.ofLists_of_paired hverdict] at h
      cases h
      exact ⟨rfl, rfl⟩
  | some fault =>
      rw [ReadingSet.ofLists_of_fault hverdict] at h
      cases h

/-- **One verdict**, wherever captures come in: where a reading set is built from two lists, where
midpoints are computed from them with any weights, and where a reading set is read from a structured
value that holds them, as every two lists are held by one.  All of them accept the captures exactly
where they pair up, and refuse them exactly with the fault that they have; a reading set keeps both
lists as they are. -/
theorem verdict_everywhere (highs lows : List Float) :
    FollowsVerdict highs lows id (ReadingSet.ofLists highs lows) ∧
    (∀ calibration : Calibration,
      FollowsVerdict highs lows id (calibration.compute highs lows)) ∧
    ReadingSet.capturesOf ReadingSet.looseRecord (ReadingSet.formOf highs lows) =
      .ok (highs, lows) ∧
    (∀ datum, ReadingSet.capturesOf ReadingSet.looseRecord datum = .ok (highs, lows) →
      FollowsVerdict highs lows Datum.Fault.unpaired (ReadingSet.ofDatum datum)) ∧
    ∀ set, (ReadingSet.ofLists highs lows = .ok set ∨
        ∃ datum, ReadingSet.capturesOf ReadingSet.looseRecord datum = .ok (highs, lows) ∧
          ReadingSet.ofDatum datum = .ok set) →
      set.highs = highs ∧ set.lows = lows := by
  have hlists := followsVerdict_ofLists highs lows
  refine ⟨hlists, ?_, (holdsCaptures_formOf highs lows).capturesOf rfl, ?_, ?_⟩
  · intro calibration
    rw [Calibration.compute_ofLists]
    exact hlists.map calibration.apply
  · intro datum hdatum
    rw [ofDatum_of_capturesOf hdatum]
    exact hlists.mapError Datum.Fault.unpaired
  · rintro set (hset | ⟨datum, hdatum, hset⟩)
    · exact lists_of_ofLists hset
    · rw [ofDatum_of_capturesOf hdatum] at hset
      cases hread : ReadingSet.ofLists highs lows with
      | error fault =>
          rw [hread] at hset
          cases hset
      | ok read =>
          rw [hread] at hset
          cases hset
          exact lists_of_ofLists hread

end PegBox
