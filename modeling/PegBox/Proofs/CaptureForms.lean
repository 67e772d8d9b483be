/-
**Structured values that hold captures.**

A reading can be written as a double or as a whole number, which stands for the nearest double.  A
capture is a list of such items, and a document of two captures is a mapping with the two names,
whichever comes first.  This module says so without the readers of the forms, and shows that the
readers deliver exactly the readings that are held.

Main definitions:

* `PegBox.Datum.Holds` — **a structured value that holds the readings of a capture**;
* `PegBox.HoldsCaptures` — **a document that holds two captures** and nothing else.

Main results:

* `PegBox.Datum.readItems_eq_ok_iff` — a list is read item by item;
* `PegBox.Datum.toList_toFloat_eq_ok_iff` — what is read from a list is what it holds;
* `PegBox.HoldsCaptures.capturesOf` — two captures are read from a document that holds them;
* `PegBox.holdsCaptures_formOf` — every two captures have such a document.
-/

import Mathlib.Data.List.Forall2
import PegBox.Datum.Forms

set_option autoImplicit false

namespace PegBox

namespace Datum

theorem readItems_cons_eq_ok_iff {α : Type} {read : Datum → Except Fault α} {item : Datum}
    {rest : List Datum} {values : List α} :
    readItems read (item :: rest) = .ok values ↔
      ∃ value others, read item = .ok value ∧ readItems read rest = .ok others ∧
        values = value :: others := by
  rw [readItems]
  cases read item with
  | error fault => simp
  | ok value =>
      cases readItems read rest with
      | error fault => simp
      | ok others => simp [eq_comm]

/-- A list is read item by item, in order. -/
theorem readItems_eq_ok_iff {α : Type} {read : Datum → Except Fault α} {items : List Datum}
    {values : List α} :
    readItems read items = .ok values ↔
      List.Forall₂ (fun item value => read item = .ok value) items values := by
  induction items generalizing values with
  | nil =>
      rw [readItems, List.forall₂_nil_left_iff, Except.ok.injEq]
      exact eq_comm
  | cons item rest ih =>
      rw [readItems_cons_eq_ok_iff, List.forall₂_cons_left_iff]
      simp only [ih]

/-- An item that stands for a reading: the double itself, or a whole number nearest to which it
is. -/
inductive StandsFor : Datum → Float → Prop where
  | float (reading : Float) : StandsFor (.float reading) reading
  | integer (count : Int) : StandsFor (.integer count) (Float.ofInt count)

theorem toFloat_eq_ok_iff {item : Datum} {reading : Float} :
    item.toFloat = .ok reading ↔ item.StandsFor reading := by
  constructor
  · intro h
    cases item <;> cases h
    · exact .integer _
    · exact .float _
  · intro h
    cases h <;> rfl

/-- **A structured value that holds the readings of a capture**, in order: a list, however it is
written, whose items stand for them. -/
def Holds (form : Datum) (readings : List Float) : Prop :=
  ∃ items, form.items? = some items ∧ List.Forall₂ StandsFor items readings

/-- What is read from a list is what it holds. -/
theorem toList_toFloat_eq_ok_iff {form : Datum} {readings : List Float} :
    toList toFloat form = .ok readings ↔ form.Holds readings := by
  have hread : (fun item reading => toFloat item = .ok reading) = StandsFor := by
    funext item reading
    exact propext toFloat_eq_ok_iff
  rw [toList, Holds]
  cases hitems : form.items? with
  | none => simp
  | some items =>
      dsimp only
      rw [readItems_eq_ok_iff, hread]
      simp

theorem holds_floats (readings : List Float) :
    (Datum.sequence (readings.map .float)).Holds readings := by
  refine ⟨_, rfl, ?_⟩
  rw [List.forall₂_map_left_iff, List.forall₂_same]
  intro reading _
  exact .float reading

end Datum

/-- **A document that holds two captures** under their names, in either order, and nothing else. -/
inductive HoldsCaptures (highs lows : List Float) : Datum → Prop where
  | highsFirst {highForm lowForm : Datum} (hhighs : highForm.Holds highs)
      (hlows : lowForm.Holds lows) :
      HoldsCaptures highs lows (.mapping [("highs", highForm), ("lows", lowForm)])
  | lowsFirst {highForm lowForm : Datum} (hhighs : highForm.Holds highs)
      (hlows : lowForm.Holds lows) :
      HoldsCaptures highs lows (.mapping [("lows", lowForm), ("highs", highForm)])

/-- Two captures are read from a document that holds them, whether or not the record is strict. -/
theorem HoldsCaptures.capturesOf {highs lows : List Float} {document : Datum}
    (h : HoldsCaptures highs lows document) {record : Datum.Record}
    (hfields : record.fields = ["highs", "lows"]) :
    ReadingSet.capturesOf record document = .ok (highs, lows) := by
  have hhighsField : "highs" ∈ record.fields := by simp [hfields]
  have hlowsField : "lows" ∈ record.fields := by simp [hfields]
  cases h with
  | highsFirst hhighs hlows =>
      rw [← Datum.toList_toFloat_eq_ok_iff] at hhighs hlows
      rw [ReadingSet.capturesOf, Datum.Record.read, Datum.Record.readEntries, if_pos hhighsField,
        if_neg List.not_mem_nil, hhighs, Datum.Record.readEntries, if_pos hlowsField,
        if_neg (by decide : "lows" ∉ ["highs"]), hlows, Datum.Record.readEntries]
      rfl
  | lowsFirst hhighs hlows =>
      rw [← Datum.toList_toFloat_eq_ok_iff] at hhighs hlows
      rw [ReadingSet.capturesOf, Datum.Record.read, Datum.Record.readEntries, if_pos hlowsField,
        if_neg List.not_mem_nil, hlows, Datum.Record.readEntries, if_pos hhighsField,
        if_neg (by decide : "highs" ∉ ["lows"]), hhighs, Datum.Record.readEntries]
      rfl

/-- Every two captures have a document that holds them. -/
theorem holdsCaptures_formOf (highs lows : List Float) :
    HoldsCaptures highs lows (ReadingSet.formOf highs lows) :=
  .highsFirst (Datum.holds_floats highs) (Datum.holds_floats lows)

end PegBox
