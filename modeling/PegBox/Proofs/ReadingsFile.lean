/-
**How a readings file is judged.**

A readings file and the structured form of a reading set are read by two records that know the same
names.  That of the form passes over other names and pairs the captures at once; that of the file
refuses other names, and the captures are paired when they have been read.  This module says what a
file has to hold without either reader: a document whose only names are those of the two captures,
each of which stands for a list of numbers.  Any other text is malformed; such a text gives two
captures, which are judged as two lists are.  So a file is accepted exactly where the form is and no
other name stands in it.

Main definitions:

* `PegBox.GivesCaptures`, `PegBox.OnlyCaptures` — the captures that entries give, and that they give
  nothing else;
* `PegBox.Misshapen` — entries that do not give two captures and nothing else;
* `PegBox.MalformedText` — **a text that is no readings file**, whatever its captures are.

Main results:

* `PegBox.not_misshapen_iff` — entries are misshapen, or give two captures and nothing else;
* `PegBox.load_file_of_gives`, `PegBox.load_file_of_malformed` — two captures in a file are judged
  as two lists are, and anything else is malformed;
* `PegBox.readings_file_judged` — **the verdict on a readings file**.
-/

import PegBox.Proofs.InputVerdict
import PegBox.Proofs.RecordReading
import PegBox.Source

set_option autoImplicit false

namespace PegBox

variable {entries : List (String × Datum)} {highs lows : List Float} {files : Files}
  {path text : String}

/-! ### Entries -/

theorem mapError_eq_ok_iff {ε δ α : Type} {answer : Except ε α} {wrap : ε → δ} {value : α} :
    answer.mapError wrap = .ok value ↔ answer = .ok value := by
  cases answer <;> simp [Except.mapError]

/-- The captures that entries give under their names. -/
structure GivesCaptures (entries : List (String × Datum)) (highs lows : List Float) : Prop where
  highs : NamesCapture entries "highs" highs
  lows : NamesCapture entries "lows" lows

/-- Entries have no other names than those of the captures. -/
def OnlyCaptures (entries : List (String × Datum)) : Prop :=
  ∀ entry ∈ entries, entry.1 = "highs" ∨ entry.1 = "lows"

/-- **Entries that are not two captures**: there is another name, or one of the captures is missing,
or its name stands for something else than a list of numbers. -/
inductive Misshapen (entries : List (String × Datum)) : Prop where
  | unknownName {name : String} {item : Datum} (hentry : (name, item) ∈ entries)
      (hname : name ≠ "highs" ∧ name ≠ "lows")
  | missingName {name : String} (hname : name = "highs" ∨ name = "lows")
      (hmissing : ∀ item, (name, item) ∉ entries)
  | notNumbers {name : String} {item : Datum} (hname : name = "highs" ∨ name = "lows")
      (hentry : (name, item) ∈ entries) (hitem : ∀ readings, ¬ item.Holds readings)

/-- Both captures are given exactly where each name stands for one. -/
theorem exists_givesCaptures_iff :
    (∃ highs lows, GivesCaptures entries highs lows) ↔
      ∀ name, name = "highs" ∨ name = "lows" → ∃ readings, NamesCapture entries name readings := by
  constructor
  · rintro ⟨highs, lows, hgives⟩ name (rfl | rfl)
    · exact ⟨highs, hgives.highs⟩
    · exact ⟨lows, hgives.lows⟩
  · intro h
    obtain ⟨highs, hhighs⟩ := h "highs" (.inl rfl)
    obtain ⟨lows, hlows⟩ := h "lows" (.inr rfl)
    exact ⟨highs, lows, hhighs, hlows⟩

/-- Entries are misshapen, or give two captures and nothing else. -/
theorem not_misshapen_iff (hdistinct : DistinctNames entries) :
    ¬ Misshapen entries ↔
      OnlyCaptures entries ∧ ∃ highs lows, GivesCaptures entries highs lows := by
  rw [exists_givesCaptures_iff]
  constructor
  · intro h
    constructor
    · rintro ⟨name, item⟩ hentry
      by_contra hname
      exact h (.unknownName hentry (not_or.1 hname))
    · intro name hname
      by_contra hnone
      refine h (.missingName hname fun item hentry => h (.notNumbers hname hentry ?_))
      intro readings hreadings
      exact hnone ⟨readings, item, hentry, hreadings⟩
  · rintro ⟨honly, hcapture⟩ h
    cases h with
    | unknownName hentry hname => exact not_or.2 hname (honly _ hentry)
    | missingName hname hmissing =>
        obtain ⟨-, form, hform, -⟩ := hcapture _ hname
        exact hmissing form hform
    | notNumbers hname hentry hitem =>
        obtain ⟨readings, form, hform, hreadings⟩ := hcapture _ hname
        exact hitem readings (hdistinct.eq_of_mem hform hentry ▸ hreadings)

/-- Where other names are passed over, the captures that are read are those that are given. -/
theorem capturesOf_looseRecord_eq_ok_iff (hdistinct : DistinctNames entries) :
    ReadingSet.capturesOf ReadingSet.looseRecord (.mapping entries) = .ok (highs, lows) ↔
      GivesCaptures entries highs lows := by
  rw [ReadingSet.capturesOf_mapping_eq_ok_iff rfl]
  constructor
  · rintro ⟨-, -, hhighs, hlows⟩
    exact ⟨hhighs, hlows⟩
  · intro h
    exact ⟨Datum.distinctNames_known hdistinct,
      fun hstrict => absurd hstrict Bool.false_ne_true, h.highs, h.lows⟩

/-- Where other names are refused, the captures have to be all that is given. -/
theorem capturesOf_strictRecord_eq_ok_iff (hdistinct : DistinctNames entries) :
    ReadingSet.capturesOf ReadingSet.strictRecord (.mapping entries) = .ok (highs, lows) ↔
      OnlyCaptures entries ∧ GivesCaptures entries highs lows := by
  rw [ReadingSet.capturesOf_mapping_eq_ok_iff rfl]
  constructor
  · rintro ⟨-, honly, hhighs, hlows⟩
    exact ⟨honly rfl, hhighs, hlows⟩
  · rintro ⟨honly, h⟩
    exact ⟨Datum.distinctNames_known hdistinct, fun _ => honly, h.highs, h.lows⟩

/-- Entries give no two captures under one name. -/
theorem GivesCaptures.unique (hdistinct : DistinctNames entries)
    (h : GivesCaptures entries highs lows) {otherHighs otherLows : List Float} :
    GivesCaptures entries otherHighs otherLows ↔ otherHighs = highs ∧ otherLows = lows := by
  rw [← capturesOf_looseRecord_eq_ok_iff hdistinct,
    (capturesOf_looseRecord_eq_ok_iff hdistinct).2 h, Except.ok.injEq, Prod.mk.injEq, eq_comm,
    eq_comm (a := otherLows)]

/-- A reading set that is read from entries has the captures that they give. -/
theorem gives_of_ofDatum (hdistinct : DistinctNames entries) {set : ReadingSet}
    (h : ReadingSet.ofDatum (.mapping entries) = .ok set) :
    GivesCaptures entries set.highs set.lows := by
  cases hcaptures : ReadingSet.capturesOf ReadingSet.looseRecord (.mapping entries) with
  | error fault =>
      rw [ReadingSet.ofDatum, hcaptures] at h
      cases h
  | ok captures =>
      rw [ofDatum_of_capturesOf hcaptures, mapError_eq_ok_iff] at h
      obtain ⟨hhighs, hlows⟩ := lists_of_ofLists h
      rw [hhighs, hlows, ← capturesOf_looseRecord_eq_ok_iff hdistinct]
      exact hcaptures

/-! ### Texts -/

/-- **A text that is no readings file**: it is no document, or the entries of its document are not
two captures. -/
inductive MalformedText (text : String) : Prop where
  | notDocument (hparse : Toml.parse text = none)
  | misshapen {entries : List (String × Datum)} (hparse : Toml.parse text = some (.mapping entries))
      (h : Misshapen entries)

/-- A text that is not malformed is a document that gives two captures and nothing else. -/
theorem exists_givesCaptures_of_not_malformed (h : ¬ MalformedText text) :
    ∃ entries highs lows, Toml.parse text = some (.mapping entries) ∧ DistinctNames entries ∧
      OnlyCaptures entries ∧ GivesCaptures entries highs lows := by
  cases hparse : Toml.parse text with
  | none => exact absurd (.notDocument hparse) h
  | some document =>
      obtain ⟨entries, rfl, hdistinct⟩ := Toml.exists_entries_of_parse hparse
      have hshape : ¬ Misshapen entries := fun hshape => h (.misshapen hparse hshape)
      obtain ⟨honly, highs, lows, hgives⟩ := (not_misshapen_iff hdistinct).1 hshape
      exact ⟨entries, highs, lows, rfl, hdistinct, honly, hgives⟩

/-- What is read from a text is read from its document. -/
theorem readDocument_of_parse {α : Type} {document : Datum}
    (hparse : Toml.parse text = some document) (read : Datum → Except Datum.Fault α) :
    readDocument read text = (read document).mapError .misshapen := by
  rw [readDocument, hparse]
  dsimp only
  cases read document <;> rfl

/-- A structured form in a text is judged as the captures that it gives, whatever else stands in the
text. -/
theorem readDocument_ofDatum_of_gives (hparse : Toml.parse text = some (.mapping entries))
    (hdistinct : DistinctNames entries) (hgives : GivesCaptures entries highs lows) :
    readDocument ReadingSet.ofDatum text =
      (ReadingSet.ofLists highs lows).mapError fun fault => .misshapen (.unpaired fault) := by
  have hcaptures := (capturesOf_looseRecord_eq_ok_iff hdistinct).2 hgives
  rw [readDocument_of_parse hparse, ofDatum_of_capturesOf hcaptures]
  cases ReadingSet.ofLists highs lows <;> rfl

/-- A text from which a reading set is read is a document that gives its captures. -/
theorem gives_of_readDocument_ofDatum {set : ReadingSet}
    (h : readDocument ReadingSet.ofDatum text = .ok set) :
    ∃ entries, Toml.parse text = some (.mapping entries) ∧ DistinctNames entries ∧
      GivesCaptures entries set.highs set.lows := by
  cases hparse : Toml.parse text with
  | none =>
      rw [readDocument, hparse] at h
      cases h
  | some document =>
      obtain ⟨entries, rfl, hdistinct⟩ := Toml.exists_entries_of_parse hparse
      rw [readDocument_of_parse hparse, mapError_eq_ok_iff] at h
      exact ⟨entries, rfl, hdistinct, gives_of_ofDatum hdistinct h⟩

/-! ### Files -/

theorem load_file_of_text (htext : files.readText path = .ok text)
    (hparse : Toml.parse text = some (.mapping entries)) :
    (Source.file path).load files =
      match ReadingSet.capturesOf ReadingSet.strictRecord (.mapping entries) with
      | .error fault => .error (.malformed path (.misshapen fault))
      | .ok captures => (ReadingSet.ofLists captures.1 captures.2).mapError .invalid := by
  rw [Source.load, loadReadingsFile, htext]
  dsimp only
  rw [readDocument_of_parse hparse]
  cases ReadingSet.capturesOf ReadingSet.strictRecord (.mapping entries) with
  | error fault => rfl
  | ok captures =>
      dsimp only [Except.mapError]
      cases ReadingSet.ofLists captures.1 captures.2 <;> rfl

/-- Two captures in a file, and nothing else, are judged as two lists are. -/
theorem load_file_of_gives (htext : files.readText path = .ok text)
    (hparse : Toml.parse text = some (.mapping entries)) (hdistinct : DistinctNames entries)
    (honly : OnlyCaptures entries) (hgives : GivesCaptures entries highs lows) :
    (Source.file path).load files = (ReadingSet.ofLists highs lows).mapError .invalid := by
  rw [load_file_of_text htext hparse,
    (capturesOf_strictRecord_eq_ok_iff hdistinct).2 ⟨honly, hgives⟩]

/-- Anything else in a file is malformed. -/
theorem load_file_of_malformed (htext : files.readText path = .ok text) (h : MalformedText text) :
    ∃ fault, (Source.file path).load files = .error (.malformed path fault) := by
  cases h with
  | notDocument hparse =>
      refine ⟨.notDocument text, ?_⟩
      rw [Source.load, loadReadingsFile, htext]
      dsimp only
      rw [readDocument, hparse]
  | @misshapen entries hparse hshape =>
      obtain ⟨_, hsame, hdistinct⟩ := Toml.exists_entries_of_parse hparse
      cases hsame
      rw [load_file_of_text htext hparse]
      cases hcaptures : ReadingSet.capturesOf ReadingSet.strictRecord (.mapping entries) with
      | error fault => exact ⟨_, rfl⟩
      | ok captures =>
          obtain ⟨honly, hgives⟩ := (capturesOf_strictRecord_eq_ok_iff hdistinct).1 hcaptures
          exact absurd hshape ((not_misshapen_iff hdistinct).2 ⟨honly, _, _, hgives⟩)

/-- A tree has a text at a path only where the path leads to a file that holds it. -/
theorem FileTree.exists_file_of_readText {tree : FileTree} (h : tree.readText path = .ok text) :
    ∃ place content, tree.node? place = some (.file content) ∧
      String.fromUTF8? content = some text := by
  rw [readText] at h
  split at h
  · cases h
  split at h
  · cases h
  split at h
  · cases h
  dsimp only at h
  split at h
  · cases h
  · cases h
  · next place _ =>
    split at h
    · cases h
    · cases h
    · next content hnode =>
      split at h
      · cases h
      · next held hheld =>
        cases h
        exact ⟨place, content, hnode, hheld⟩

/-- **The verdict on a readings file.**  A path that cannot be read makes the file unreadable, and
in a tree of files a path can be read only where it leads to a file of text.  A text that can be
read is accepted with a reading set exactly where its structured form is read as that reading set
and its document has no other name than those of the captures.  It is malformed exactly where it is
no document, has another name, misses a capture, or has something else than a list of numbers in its
place.  And any other text gives two captures, by which the file and the structured form are both
judged: the reading set that they form, or the fault that they have. -/
theorem readings_file_judged (files : Files) (path : String) :
    (∀ fault, files.readText path = .error fault →
      (Source.file path).load files = .error (.unreadable path fault)) ∧
    (∀ tree : FileTree, ∀ text, tree.files.readText path = .ok text →
      ∃ place content, tree.node? place = some (.file content) ∧
        String.fromUTF8? content = some text) ∧
    ∀ text, files.readText path = .ok text →
      (∀ set, (Source.file path).load files = .ok set ↔
        readDocument ReadingSet.ofDatum text = .ok set ∧
          ∀ entries, Toml.parse text = some (.mapping entries) → OnlyCaptures entries) ∧
      ((∃ fault, (Source.file path).load files = .error (.malformed path fault)) ↔
        MalformedText text) ∧
      (¬ MalformedText text → ∃ entries highs lows, Toml.parse text = some (.mapping entries) ∧
        (∀ otherHighs otherLows, GivesCaptures entries otherHighs otherLows ↔
          otherHighs = highs ∧ otherLows = lows) ∧
        (Source.file path).load files = (ReadingSet.ofLists highs lows).mapError .invalid ∧
        readDocument ReadingSet.ofDatum text =
          (ReadingSet.ofLists highs lows).mapError fun fault => .misshapen (.unpaired fault)) := by
  refine ⟨?_, fun tree text => FileTree.exists_file_of_readText, ?_⟩
  · intro fault hfault
    rw [Source.load, loadReadingsFile, hfault]
  · intro text htext
    refine ⟨fun set => ⟨?_, ?_⟩, ⟨?_, load_file_of_malformed htext⟩, ?_⟩
    · intro hload
      -- What was accepted is not malformed, so that its document has two captures to read again.
      have hwell : ¬ MalformedText text := by
        intro h
        obtain ⟨fault, hfault⟩ := load_file_of_malformed htext h
        rw [hload] at hfault
        cases hfault
      obtain ⟨entries, highs, lows, hparse, hdistinct, honly, hgives⟩ :=
        exists_givesCaptures_of_not_malformed hwell
      rw [load_file_of_gives htext hparse hdistinct honly hgives, mapError_eq_ok_iff] at hload
      rw [readDocument_ofDatum_of_gives hparse hdistinct hgives, mapError_eq_ok_iff]
      refine ⟨hload, ?_⟩
      intro other hother
      rw [hparse] at hother
      cases hother
      exact honly
    · rintro ⟨hread, honly⟩
      obtain ⟨entries, hparse, hdistinct, hgives⟩ := gives_of_readDocument_ofDatum hread
      rw [load_file_of_gives htext hparse hdistinct (honly entries hparse) hgives,
        ReadingSet.ofLists_self]
      rfl
    · rintro ⟨fault, hload⟩
      by_contra h
      obtain ⟨entries, highs, lows, hparse, hdistinct, honly, hgives⟩ :=
        exists_givesCaptures_of_not_malformed h
      rw [load_file_of_gives htext hparse hdistinct honly hgives] at hload
      cases hlists : ReadingSet.ofLists highs lows <;> rw [hlists] at hload <;> cases hload
    · intro h
      obtain ⟨entries, highs, lows, hparse, hdistinct, honly, hgives⟩ :=
        exists_givesCaptures_of_not_malformed h
      exact ⟨entries, highs, lows, hparse, fun _ _ => hgives.unique hdistinct,
        load_file_of_gives htext hparse hdistinct honly hgives,
        readDocument_ofDatum_of_gives hparse hdistinct hgives⟩

end PegBox
