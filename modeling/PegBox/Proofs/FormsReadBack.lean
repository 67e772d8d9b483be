/-
**What is written in structured form is read back.**

Reading sets, thresholds and configurations are written as mappings, and read by records that know
the names of the fields on their own.  A text format keeps the values in a mapping, but it may bring
its entries back in another order, and what stands for nothing it may leave out.  This module shows
that the names agree and that no check on the way in refuses what the library holds: whatever a text
format does in between, the same value is read.  A reading set is also read from the same entries in
a readings file, which knows no other names.

Main definitions:

* `PegBox.Datum.Carried` — **a structured value after a text format**;
* `PegBox.ReadsBack` — a form from which the same value is read, after any text format;
* `PegBox.Config.part` — what one field says of a configuration.

Main results:

* `PegBox.Datum.toOptional_optionalDatum` — what may be left out is read back where its form is;
* `PegBox.Config.component_merged` — a configuration is put together from its parts in any order;
* `PegBox.forms_read_back` — **all three forms are read back**.
-/

import Mathlib.Data.List.Perm.Subperm
import PegBox.Config
import PegBox.Proofs.ReadingsFile
import PegBox.Proofs.ThresholdCount

set_option autoImplicit false

namespace PegBox

/-! ### Text formats -/

namespace Datum

/-- **A structured value after a text format**: it is the same, or it is a mapping whose entries are
in another order, and some that stood for nothing are gone. -/
inductive Carried : Datum → Datum → Prop where
  | same (datum : Datum) : Carried datum datum
  | mapping {entries brought : List (String × Datum)} (hbrought : brought.Subperm entries)
      (hkept : ∀ entry ∈ entries, entry.2 ≠ .null → entry ∈ brought) :
      Carried (.mapping entries) (.mapping brought)

theorem Carried.exists_entries {entries : List (String × Datum)} {datum : Datum}
    (h : Carried (.mapping entries) datum) :
    ∃ brought, datum = .mapping brought ∧ brought.Subperm entries ∧
      ∀ entry ∈ entries, entry.2 ≠ .null → entry ∈ brought := by
  cases h with
  | same => exact ⟨entries, rfl, .refl entries, fun entry hentry _ => hentry⟩
  | mapping hbrought hkept => exact ⟨_, rfl, hbrought, hkept⟩

end Datum

theorem DistinctNames.of_subperm {α : Type} {entries brought : List (String × α)}
    (h : DistinctNames entries) (hbrought : brought.Subperm entries) : DistinctNames brought := by
  obtain ⟨others, hperm, hsublist⟩ := hbrought
  exact (hperm.map Prod.fst).nodup_iff.1 (h.sublist (hsublist.map Prod.fst))

/-- A form from which the same value is read, after any text format. -/
def ReadsBack {α : Type} (form : α → Datum) (read : Datum → Except Datum.Fault α) : Prop :=
  ∀ value brought, Datum.Carried (form value) brought → read brought = .ok value

/-! ### Reading sets and thresholds -/

/-- The form of a reading set gives its captures and nothing else, after any text format. -/
theorem ReadingSet.gives_of_carried {set : ReadingSet} {datum : Datum}
    (h : Datum.Carried set.toDatum datum) :
    ∃ entries, datum = .mapping entries ∧ DistinctNames entries ∧ OnlyCaptures entries ∧
      GivesCaptures entries set.highs set.lows := by
  obtain ⟨brought, rfl, hbrought, hkept⟩ := h.exists_entries
  have hwritten : DistinctNames [("highs", Datum.sequence (set.highs.map .float)),
      ("lows", Datum.sequence (set.lows.map .float))] := by
    change ["highs", "lows"].Nodup
    decide
  refine ⟨brought, rfl, hwritten.of_subperm hbrought, ?_, ?_, ?_⟩
  · intro entry hentry
    rcases List.mem_cons.1 (hbrought.subset hentry) with rfl | hentry
    · exact .inl rfl
    · rw [List.mem_singleton.1 hentry]
      exact .inr rfl
  · exact ⟨_, hkept _ List.mem_cons_self nofun, Datum.holds_floats set.highs⟩
  · exact ⟨_, hkept _ (List.mem_cons_of_mem _ List.mem_cons_self) nofun,
      Datum.holds_floats set.lows⟩

theorem ReadingSet.readsBack : ReadsBack toDatum ofDatum := by
  intro set datum h
  obtain ⟨entries, rfl, hdistinct, -, hgives⟩ := ReadingSet.gives_of_carried h
  rw [ofDatum_of_capturesOf ((capturesOf_looseRecord_eq_ok_iff hdistinct).2 hgives), ofLists_self]
  rfl

theorem Thresholds.readsBack : ReadsBack toDatum ofDatum := by
  intro thresholds datum h
  obtain ⟨brought, rfl, hbrought, hkept⟩ := h.exists_entries
  have hmem := hkept _ List.mem_cons_self nofun
  -- The only entry is a list of counts, so it was kept and nothing was moved.
  have hsame := List.perm_singleton.1 (hbrought.antisymm (List.singleton_subperm_iff.2 hmem))
  rw [hsame, ofDatum_of_holdsThresholds (holdsThresholds_mapping thresholds.values),
    ofList_of_length thresholds.length_values]
  rfl

/-! ### Configurations -/

/-- What may be left out is read back where its form is read back and is never nothing. -/
theorem Datum.toOptional_optionalDatum {α : Type} {form : α → Datum} {read : Datum → Except Fault α}
    (hform : ∀ value, form value ≠ .null) (hread : ∀ value, read (form value) = .ok value)
    (content : Option α) : toOptional read (Config.optionalDatum form content) = .ok content := by
  cases content with
  | none => rfl
  | some value =>
      have hvalue := hread value
      rw [Config.optionalDatum]
      cases hdatum : form value with
      | null => exact absurd hdatum (hform value)
      | _ =>
          rw [hdatum] at hvalue
          rw [toOptional, hvalue]
          nofun

theorem Datum.text_ne_null (text : String) : Datum.text text ≠ .null := nofun

theorem Preset.toDatum_ne_null (preset : Preset) : preset.toDatum ≠ .null := nofun

theorem Preset.ofDatum_toDatum (medium : Medium) (preset : Preset) :
    Preset.ofDatum medium preset.toDatum = .ok preset := by
  cases preset <;> rfl

theorem OutputFormat.toDatum_ne_null (format : OutputFormat) : format.toDatum ≠ .null := nofun

theorem OutputFormat.ofDatum_toDatum (medium : Medium) (format : OutputFormat) :
    OutputFormat.ofDatum medium format.toDatum = .ok format := by
  cases format <;> rfl

namespace Config

/-- What one field says of a configuration. -/
def part (config : Config) (name : String) : Config :=
  if name = "preset" then ⟨config.preset, none, none⟩
  else if name = "separator" then ⟨none, config.separator, none⟩
  else ⟨none, none, config.format⟩

variable {α : Type} {config : Config} {fields : List (String × Config)}

/-- A component of what is put together is the first one that is present. -/
theorem component_foldr {component : Config → Option α} (hempty : component empty = none)
    (horElse : ∀ first second, component (orElse first second) =
      (component first).or (component second)) (fields : List (String × Config)) :
    component (fields.foldr (fun field config => field.2.orElse config) empty) =
      fields.findSome? fun field => component field.2 := by
  induction fields with
  | nil => exact hempty
  | cons field rest ih =>
      rw [List.foldr_cons, horElse, ih, List.findSome?_cons]
      cases component field.2 <;> rfl

/-- A component is put together from the parts of a configuration, in any order, if the part that
says it is there. -/
theorem component_merged {component : Config → Option α} (hempty : component empty = none)
    (horElse : ∀ first second, component (orElse first second) =
      (component first).or (component second))
    (hparts : ∀ field ∈ fields, component field.2 = none ∨ component field.2 = component config)
    (hpresent : component config ≠ none → ∃ field ∈ fields, component field.2 = component config) :
    component (fields.foldr (fun field config => field.2.orElse config) empty) =
      component config := by
  rw [component_foldr hempty horElse]
  -- The first component that is present is as good as any other: all that are present are the same.
  cases hfound : fields.findSome? fun field => component field.2 with
  | none =>
      by_contra hne
      obtain ⟨field, hfield, hcomponent⟩ := hpresent (Ne.symm hne)
      rw [List.findSome?_eq_none_iff.1 hfound field hfield] at hcomponent
      exact hne hcomponent
  | some value =>
      obtain ⟨field, hfield, hvalue⟩ := List.exists_of_findSome?_eq_some hfound
      rcases hparts field hfield with hnone | hsame
      · rw [hvalue] at hnone
        cases hnone
      · rw [← hsame, hvalue]

theorem optionalDatum_ne_null {form : α → Datum} (hform : ∀ value, form value ≠ .null)
    {content : Option α} (h : content ≠ none) : optionalDatum form content ≠ .null := by
  cases content with
  | none => exact absurd rfl h
  | some value => exact hform value

/-- Each entry of the form says its part. -/
theorem ofField_of_mem (medium : Medium) {entry : String × Datum}
    (h : entry ∈ [("preset", optionalDatum Preset.toDatum config.preset),
      ("separator", optionalDatum .text config.separator),
      ("format", optionalDatum OutputFormat.toDatum config.format)]) :
    entry.1 ∈ record.fields ∧ ofField medium entry.1 entry.2 = .ok (config.part entry.1) := by
  simp only [List.mem_cons, List.not_mem_nil, or_false] at h
  rcases h with rfl | rfl | rfl
  · have hpreset : Datum.toOptional (Preset.ofDatum medium)
        (optionalDatum Preset.toDatum config.preset) = .ok config.preset :=
      Datum.toOptional_optionalDatum Preset.toDatum_ne_null (Preset.ofDatum_toDatum medium)
        config.preset
    refine ⟨List.mem_cons_self, ?_⟩
    rw [ofField, if_pos rfl, hpreset]
    rfl
  · have hseparator : Datum.toOptional Datum.toText (optionalDatum .text config.separator) =
        .ok config.separator :=
      Datum.toOptional_optionalDatum Datum.text_ne_null (fun _ => rfl) config.separator
    refine ⟨List.mem_cons_of_mem _ List.mem_cons_self, ?_⟩
    rw [ofField, if_neg (by decide : "separator" ≠ "preset"), if_pos rfl, hseparator]
    rfl
  · have hformat : Datum.toOptional (OutputFormat.ofDatum medium)
        (optionalDatum OutputFormat.toDatum config.format) = .ok config.format :=
      Datum.toOptional_optionalDatum OutputFormat.toDatum_ne_null
        (OutputFormat.ofDatum_toDatum medium) config.format
    refine ⟨List.mem_cons_of_mem _ (List.mem_cons_of_mem _ List.mem_cons_self), ?_⟩
    rw [ofField, if_neg (by decide : "format" ≠ "preset"),
      if_neg (by decide : "format" ≠ "separator"), hformat]
    rfl

/-- A configuration is put together from its parts, in any order, if the parts of what it names are
there. -/
theorem foldr_eq_of_parts (hparts : ∀ field ∈ fields, field.2 = config.part field.1)
    (hpreset : config.preset ≠ none → ("preset", config.part "preset") ∈ fields)
    (hseparator : config.separator ≠ none → ("separator", config.part "separator") ∈ fields)
    (hformat : config.format ≠ none → ("format", config.part "format") ∈ fields) :
    fields.foldr (fun field config => field.2.orElse config) empty = config := by
  have hone : ∀ field ∈ fields,
      (field.2.preset = none ∨ field.2.preset = config.preset) ∧
      (field.2.separator = none ∨ field.2.separator = config.separator) ∧
      (field.2.format = none ∨ field.2.format = config.format) := by
    intro field hfield
    rw [hparts field hfield, part]
    split_ifs <;> simp
  have hpresets : (fields.foldr (fun field config => field.2.orElse config) empty).preset =
      config.preset :=
    component_merged rfl (fun _ _ => rfl) (fun field hfield => (hone field hfield).1)
      fun h => ⟨_, hpreset h, rfl⟩
  have hseparators : (fields.foldr (fun field config => field.2.orElse config) empty).separator =
      config.separator :=
    component_merged rfl (fun _ _ => rfl) (fun field hfield => (hone field hfield).2.1)
      fun h => ⟨_, hseparator h, rfl⟩
  have hformats : (fields.foldr (fun field config => field.2.orElse config) empty).format =
      config.format :=
    component_merged rfl (fun _ _ => rfl) (fun field hfield => (hone field hfield).2.2)
      fun h => ⟨_, hformat h, rfl⟩
  exact congr (congr (congrArg Config.mk hpresets) hseparators) hformats

theorem readsBack (medium : Medium) : ReadsBack toDatum (ofDatum medium) := by
  intro config datum h
  obtain ⟨brought, rfl, hbrought, hkept⟩ := h.exists_entries
  have hwritten : DistinctNames [("preset", optionalDatum Preset.toDatum config.preset),
      ("separator", optionalDatum .text config.separator),
      ("format", optionalDatum OutputFormat.toDatum config.format)] := by
    change ["preset", "separator", "format"].Nodup
    decide
  have hpart : ∀ entry ∈ brought, entry.1 ∈ record.fields ∧
      ofField medium entry.1 entry.2 = .ok (config.part entry.1) :=
    fun entry hentry => ofField_of_mem medium (hbrought.subset hentry)
  have hexists : ∃ fields, record.readEntries (ofField medium) [] brought = .ok fields :=
    Datum.exists_readEntries_iff.2
      ⟨Datum.distinctNames_known (hwritten.of_subperm hbrought),
        fun _ entry hentry => (hpart entry hentry).1,
        fun entry hentry _ => ⟨_, (hpart entry hentry).2⟩⟩
  obtain ⟨fields, hfields⟩ := hexists
  -- Which fields were read is known, their order is not: it takes no part in what follows.
  have hparts : ∀ field ∈ fields, field.2 = config.part field.1 := by
    rintro ⟨name, said⟩ hfield
    obtain ⟨-, item, hitem, hread⟩ := (Datum.mem_iff_of_readEntries hfields).1 hfield
    rw [(hpart _ hitem).2] at hread
    exact (Except.ok.inj hread).symm
  have hpresent : ∀ entry ∈ brought, (entry.1, config.part entry.1) ∈ fields := by
    intro entry hentry
    exact (Datum.mem_iff_of_readEntries hfields).2
      ⟨(hpart entry hentry).1, entry.2, hentry, (hpart entry hentry).2⟩
  have hpreset : config.preset ≠ none → ("preset", config.part "preset") ∈ fields := fun hsome =>
    hpresent _ (hkept _ List.mem_cons_self (optionalDatum_ne_null Preset.toDatum_ne_null hsome))
  have hseparator : config.separator ≠ none → ("separator", config.part "separator") ∈ fields :=
    fun hsome => hpresent _ (hkept _ (List.mem_cons_of_mem _ List.mem_cons_self)
      (optionalDatum_ne_null Datum.text_ne_null hsome))
  have hformat : config.format ≠ none → ("format", config.part "format") ∈ fields := fun hsome =>
    hpresent _ (hkept _ (List.mem_cons_of_mem _ (List.mem_cons_of_mem _ List.mem_cons_self))
      (optionalDatum_ne_null OutputFormat.toDatum_ne_null hsome))
  rw [ofDatum, Datum.Record.read, hfields]
  exact congrArg Except.ok (foldr_eq_of_parts hparts hpreset hseparator hformat)

example : ofDatum .toml (.mapping [("format", .text "hex"), ("preset", .text "capture-2")]) =
    .ok ⟨some .capture2, none, some .hex⟩ := rfl

end Config

/-- **All three forms are read back.** -/
theorem forms_read_back :
    ReadsBack ReadingSet.toDatum ReadingSet.ofDatum ∧
    ReadsBack Thresholds.toDatum Thresholds.ofDatum ∧
    (∀ medium, ReadsBack Config.toDatum (Config.ofDatum medium)) ∧
    ∀ set datum, Datum.Carried (ReadingSet.toDatum set) datum →
      ReadingSet.capturesOf ReadingSet.strictRecord datum = .ok (set.highs, set.lows) ∧
      ∀ files : Files, ∀ path text, files.readText path = .ok text →
        Toml.parse text = some datum → (Source.file path).load files = .ok set := by
  refine ⟨ReadingSet.readsBack, Thresholds.readsBack, Config.readsBack, ?_⟩
  intro set datum h
  obtain ⟨entries, rfl, hdistinct, honly, hgives⟩ := ReadingSet.gives_of_carried h
  refine ⟨(capturesOf_strictRecord_eq_ok_iff hdistinct).2 ⟨honly, hgives⟩, ?_⟩
  intro files path text htext hparse
  rw [load_file_of_gives htext hparse hdistinct honly hgives, ReadingSet.ofLists_self]
  rfl

end PegBox
