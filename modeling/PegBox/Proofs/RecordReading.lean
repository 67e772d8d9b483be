/-
**What is read from a mapping does not depend on its order.**

A record is read from a mapping entry by entry, and the first fault ends the reading.  Which fault
that is depends on the order of the entries; what is read does not.  A mapping is read exactly where
no known name stands twice, each known entry can be read and, if the record is strict, all entries
are known; each field is then what its entry gives, wherever it stands.

Main definitions:

* `PegBox.Datum.Record.known` — the entries that a record knows;
* `PegBox.NamesCapture` — a mapping that gives the readings of a capture under a name.

Main results:

* `PegBox.Datum.exists_readEntries_iff`, `PegBox.Datum.mem_iff_of_readEntries` — **which mappings
  are read**, and which fields are read from them;
* `PegBox.Datum.required_eq_ok_iff` — a field that a record needs is what its entry gives;
* `PegBox.ReadingSet.capturesOf_mapping_eq_ok_iff` — **the two captures of a mapping**.
-/

import PegBox.Proofs.CaptureForms
import PegBox.Proofs.DocumentNames

set_option autoImplicit false

namespace PegBox

namespace Datum

variable {α : Type} {record : Record} {readField : String → Datum → Except Fault α} {name : String}
  {done : List String} {item : Datum} {entries rest : List (String × Datum)}
  {values : List (String × α)}

/-! ### Entries that are known -/

/-- The entries that a record knows, in the order in which they stand. -/
def Record.known (record : Record) (entries : List (String × Datum)) : List (String × Datum) :=
  entries.filter fun entry => entry.1 ∈ record.fields

theorem known_cons_of_mem (hname : name ∈ record.fields) :
    record.known ((name, item) :: rest) = (name, item) :: record.known rest :=
  List.filter_cons_of_pos (decide_eq_true hname)

theorem known_cons_of_not_mem (hname : name ∉ record.fields) :
    record.known ((name, item) :: rest) = record.known rest :=
  List.filter_cons_of_neg (by simpa using hname)

theorem mem_known_iff {entry : String × Datum} :
    entry ∈ record.known entries ↔ entry ∈ entries ∧ entry.1 ∈ record.fields := by
  rw [Record.known, List.mem_filter, decide_eq_true_eq]

/-- Where no name stands twice, no known name does. -/
theorem distinctNames_known (h : DistinctNames entries) : DistinctNames (record.known entries) :=
  h.sublist (List.filter_sublist.map Prod.fst)

/-! ### Entry by entry -/

theorem readEntries_cons_of_mem (hname : name ∈ record.fields) :
    record.readEntries readField done ((name, item) :: rest) = .ok values ↔
      name ∉ done ∧ ∃ value others, readField name item = .ok value ∧
        record.readEntries readField (name :: done) rest = .ok others ∧
          values = (name, value) :: others := by
  rw [Record.readEntries, if_pos hname]
  by_cases hdone : name ∈ done
  · simp [hdone]
  · rw [if_neg hdone, and_iff_right hdone]
    cases readField name item with
    | error fault => simp
    | ok value =>
        cases record.readEntries readField (name :: done) rest with
        | error fault => simp
        | ok others => simp [eq_comm]

theorem readEntries_cons_of_not_mem (hname : name ∉ record.fields) :
    record.readEntries readField done ((name, item) :: rest) = .ok values ↔
      record.strict = false ∧ record.readEntries readField done rest = .ok values := by
  rw [Record.readEntries, if_neg hname]
  cases record.strict <;> simp

/-- From the middle of a mapping on, the names that have been read before count as well. -/
theorem exists_readEntries_behind_iff (hdone : done.Nodup) :
    (∃ values, record.readEntries readField done entries = .ok values) ↔
      ((record.known entries).map Prod.fst ++ done).Nodup ∧
      (record.strict = true → ∀ entry ∈ entries, entry.1 ∈ record.fields) ∧
      ∀ entry ∈ entries, entry.1 ∈ record.fields →
        ∃ value, readField entry.1 entry.2 = .ok value := by
  induction entries generalizing done with
  | nil => simpa [Record.readEntries, Record.known] using hdone
  | cons entry rest ih =>
      obtain ⟨name, item⟩ := entry
      simp only [List.forall_mem_cons]
      by_cases hname : name ∈ record.fields
      · simp only [readEntries_cons_of_mem hname, known_cons_of_mem hname, hname, true_and,
          forall_const, List.map_cons, List.cons_append]
        constructor
        · rintro ⟨_, hnew, value, others, hvalue, hothers, -⟩
          obtain ⟨honce, hknown, hread⟩ := (ih (hdone.cons hnew)).1 ⟨others, hothers⟩
          exact ⟨List.nodup_middle.1 honce, hknown, ⟨value, hvalue⟩, hread⟩
        · rintro ⟨honce, hknown, ⟨value, hvalue⟩, hread⟩
          have hnew : name ∉ done := fun hmem =>
            (List.nodup_cons.1 honce).1 (List.mem_append_right _ hmem)
          obtain ⟨others, hothers⟩ :=
            (ih (hdone.cons hnew)).2 ⟨List.nodup_middle.2 honce, hknown, hread⟩
          exact ⟨_, hnew, value, others, hvalue, hothers, rfl⟩
      · simp only [readEntries_cons_of_not_mem hname, known_cons_of_not_mem hname, hname, false_and,
          IsEmpty.forall_iff, true_and, exists_and_left, ih hdone]
        cases record.strict <;> simp

/-- **A mapping is read** exactly where no known name stands twice, each known entry can be read and,
if the record is strict, all entries are known. -/
theorem exists_readEntries_iff :
    (∃ values, record.readEntries readField [] entries = .ok values) ↔
      DistinctNames (record.known entries) ∧
      (record.strict = true → ∀ entry ∈ entries, entry.1 ∈ record.fields) ∧
      ∀ entry ∈ entries, entry.1 ∈ record.fields →
        ∃ value, readField entry.1 entry.2 = .ok value := by
  rw [exists_readEntries_behind_iff List.nodup_nil, List.append_nil]
  rfl

/-- **The fields that are read** are those of the known entries. -/
theorem mem_iff_of_readEntries (h : record.readEntries readField done entries = .ok values)
    {value : α} :
    (name, value) ∈ values ↔
      name ∈ record.fields ∧ ∃ item, (name, item) ∈ entries ∧ readField name item = .ok value := by
  induction entries generalizing done values with
  | nil =>
      cases h
      simp
  | cons entry rest ih =>
      obtain ⟨first, item⟩ := entry
      by_cases hfirst : first ∈ record.fields
      · obtain ⟨-, value', others, hvalue, hothers, rfl⟩ := (readEntries_cons_of_mem hfirst).1 h
        rw [List.mem_cons, ih hothers]
        constructor
        · rintro (hhead | ⟨hname, other, hother, hread⟩)
          · cases hhead
            exact ⟨hfirst, item, List.mem_cons_self, hvalue⟩
          · exact ⟨hname, other, List.mem_cons_of_mem _ hother, hread⟩
        · rintro ⟨hname, other, hother, hread⟩
          rcases List.mem_cons.1 hother with hhead | hother
          · cases hhead
            rw [hvalue] at hread
            cases hread
            exact .inl rfl
          · exact .inr ⟨hname, other, hother, hread⟩
      · obtain ⟨-, hrest⟩ := (readEntries_cons_of_not_mem hfirst).1 h
        rw [ih hrest]
        refine and_congr_right fun hname => exists_congr fun other => ?_
        have hne : (name, other) ≠ (first, item) := by
          rintro ⟨⟩
          exact hfirst hname
        rw [List.mem_cons, or_iff_right hne]

/-- The fields that are read stand in the order of the known entries. -/
theorem names_of_readEntries (h : record.readEntries readField done entries = .ok values) :
    values.map Prod.fst = (record.known entries).map Prod.fst := by
  induction entries generalizing done values with
  | nil =>
      cases h
      rfl
  | cons entry rest ih =>
      obtain ⟨name, item⟩ := entry
      by_cases hname : name ∈ record.fields
      · obtain ⟨-, value, others, -, hothers, rfl⟩ := (readEntries_cons_of_mem hname).1 h
        rw [known_cons_of_mem hname, List.map_cons, List.map_cons, ih hothers]
      · rw [known_cons_of_not_mem hname, ih ((readEntries_cons_of_not_mem hname).1 h).2]

/-- No field is read twice. -/
theorem distinctNames_of_readEntries (h : record.readEntries readField [] entries = .ok values) :
    DistinctNames values := by
  obtain ⟨honce, -⟩ := exists_readEntries_iff.1 ⟨values, h⟩
  rwa [DistinctNames, names_of_readEntries h]

/-- A field that a record needs is what its entry gives. -/
theorem required_eq_ok_iff (h : record.readEntries readField [] entries = .ok values)
    (hname : name ∈ record.fields) {value : α} :
    required name values = .ok value ↔
      ∃ item, (name, item) ∈ entries ∧ readField name item = .ok value := by
  have hvalues : values.lookup name = some value ↔ (name, value) ∈ values :=
    (distinctNames_of_readEntries h).lookup_eq_some_iff
  rw [mem_iff_of_readEntries h, and_iff_right hname] at hvalues
  rw [← hvalues, required]
  cases values.lookup name <;> simp

end Datum

/-! ### Two captures -/

/-- A mapping that gives the readings of a capture under a name. -/
def NamesCapture (entries : List (String × Datum)) (name : String) (readings : List Float) : Prop :=
  ∃ form, (name, form) ∈ entries ∧ form.Holds readings

namespace ReadingSet

/-- Two captures are read from a mapping where its fields are read and both captures are among
them. -/
theorem capturesOf_eq_ok_iff_required {record : Datum.Record} {entries : List (String × Datum)}
    {highs lows : List Float} :
    capturesOf record (.mapping entries) = .ok (highs, lows) ↔
      ∃ values, record.readEntries (fun _ => Datum.toList Datum.toFloat) [] entries = .ok values ∧
        Datum.required "highs" values = .ok highs ∧ Datum.required "lows" values = .ok lows := by
  rw [capturesOf, Datum.Record.read]
  cases record.readEntries (fun _ => Datum.toList Datum.toFloat) [] entries with
  | error fault => simp
  | ok values =>
      cases hhigh : Datum.required "highs" values with
      | error fault => simp [hhigh]
      | ok readings =>
          cases hlow : Datum.required "lows" values with
          | error fault => simp [hhigh, hlow]
          | ok others => simp [hhigh, hlow]

/-- **The two captures of a mapping** are those under their names, neither of which stands twice; a
strict record has no other names. -/
theorem capturesOf_mapping_eq_ok_iff {record : Datum.Record} {entries : List (String × Datum)}
    {highs lows : List Float} (hfields : record.fields = ["highs", "lows"]) :
    capturesOf record (.mapping entries) = .ok (highs, lows) ↔
      DistinctNames (record.known entries) ∧
      (record.strict = true → ∀ entry ∈ entries, entry.1 = "highs" ∨ entry.1 = "lows") ∧
      NamesCapture entries "highs" highs ∧ NamesCapture entries "lows" lows := by
  have hfield : ∀ name, name ∈ record.fields ↔ name = "highs" ∨ name = "lows" := by
    intro name
    rw [hfields, List.mem_cons, List.mem_singleton]
  have hrequired : ∀ values name readings,
      record.readEntries (fun _ => Datum.toList Datum.toFloat) [] entries = .ok values →
      name ∈ record.fields →
      (Datum.required name values = .ok readings ↔ NamesCapture entries name readings) := by
    intro values name readings hvalues hname
    rw [Datum.required_eq_ok_iff hvalues hname]
    simp only [Datum.toList_toFloat_eq_ok_iff]
    rfl
  have hhighs : "highs" ∈ record.fields := (hfield _).2 (.inl rfl)
  have hlows : "lows" ∈ record.fields := (hfield _).2 (.inr rfl)
  rw [capturesOf_eq_ok_iff_required]
  simp only [← hfield]
  constructor
  · rintro ⟨values, hvalues, hhigh, hlow⟩
    obtain ⟨honce, hknown, -⟩ := Datum.exists_readEntries_iff.1 ⟨values, hvalues⟩
    exact ⟨honce, hknown, (hrequired values _ _ hvalues hhighs).1 hhigh,
      (hrequired values _ _ hvalues hlows).1 hlow⟩
  · rintro ⟨honce, hknown, hhigh, hlow⟩
    -- As no known name stands twice, each known entry is one of the two that hold the captures.
    have hsame : ∀ {name : String} {form other : Datum}, name ∈ record.fields →
        (name, form) ∈ entries → (name, other) ∈ entries → form = other := by
      intro name form other hname hform hother
      exact honce.eq_of_mem (Datum.mem_known_iff.2 ⟨hform, hname⟩)
        (Datum.mem_known_iff.2 ⟨hother, hname⟩)
    have hread : ∀ entry ∈ entries, entry.1 ∈ record.fields →
        ∃ readings, Datum.toList Datum.toFloat entry.2 = .ok readings := by
      rintro ⟨name, form⟩ hentry hname
      simp only [Datum.toList_toFloat_eq_ok_iff]
      rcases (hfield name).1 hname with rfl | rfl
      · obtain ⟨held, hheld, hholds⟩ := hhigh
        exact ⟨highs, hsame hname hheld hentry ▸ hholds⟩
      · obtain ⟨held, hheld, hholds⟩ := hlow
        exact ⟨lows, hsame hname hheld hentry ▸ hholds⟩
    have hexists : ∃ values,
        record.readEntries (fun _ => Datum.toList Datum.toFloat) [] entries = .ok values :=
      Datum.exists_readEntries_iff.2 ⟨honce, hknown, hread⟩
    obtain ⟨values, hvalues⟩ := hexists
    exact ⟨values, hvalues, (hrequired values _ _ hvalues hhighs).2 hhigh,
      (hrequired values _ _ hvalues hlows).2 hlow⟩

end ReadingSet

end PegBox
