/-
**Names can be moved from a configuration to the command line.**

The names of formats and of bench captures stand in structured values as choices, which are made by
the exact name, and in configuration files under keys of their own.  The tables of the command line
are others, with short names and without regard to case.  This module shows that the tables agree:
what a structured value gives is named by a text that the command line takes for the same, and a
value of a configuration file can be given behind the flag of its key instead, with the same
settings.

Main definitions:

* `PegBox.Datum.Names` — **a name in structured form**;
* `PegBox.Config.IsKey` — a key of a configuration, with the value that stands under it;
* `PegBox.FileNames` — a name that a configuration file gives;
* `PegBox.Movable` — **a value of a configuration file that can be moved** to the command line.

Main results:

* `PegBox.Datum.toChoice_eq_ok_iff` — a choice is made by its exact name;
* `PegBox.Config.IsKey.value_under`, `PegBox.Config.IsKey.exists_item_of_value` — a value of a
  configuration is what stands under its key;
* `PegBox.movable_of_load` — the values of a file that are names can be moved;
* `PegBox.names_accepted` — **which names are accepted, and that they can be moved**;
* `PegBox.unknown_capture_quoted_as_given` — the refusals of two spellings of a capture differ.
-/

import PegBox.CommandLine
import PegBox.Proofs.AcceptedNames
import PegBox.Proofs.FormsReadBack
import PegBox.Proofs.SettingsLayers

set_option autoImplicit false

namespace PegBox

/-! ### Names in structured form -/

namespace Datum

/-- **A name in structured form**: the text itself, or a mapping from it alone to nothing. -/
inductive Names (medium : Medium) : Datum → String → Prop where
  | text (name : String) : Names medium (.text name) name
  | entry {name : String} {content : Datum} (hcontent : checkNothing medium content = .ok ()) :
      Names medium (.mapping [(name, content)]) name

variable {α : Type} {medium : Medium} {choices : List (String × α)} {datum : Datum} {value : α}

theorem choiceOf_eq_ok_iff {name : String} :
    choiceOf choices name = .ok value ↔ choices.lookup name = some value := by
  rw [choiceOf]
  cases choices.lookup name <;> simp

/-- A choice is made by its exact name. -/
theorem toChoice_eq_ok_iff :
    toChoice medium choices datum = .ok value ↔
      ∃ name, datum.Names medium name ∧ choices.lookup name = some value := by
  constructor
  · intro h
    rw [toChoice.eq_def] at h
    split at h
    · next name => exact ⟨name, .text name, choiceOf_eq_ok_iff.1 h⟩
    · next name content =>
      split at h
      · cases h
      · next choice hchoice =>
        split at h
        · cases h
        · next hcontent =>
          cases h
          exact ⟨name, .entry hcontent, choiceOf_eq_ok_iff.1 hchoice⟩
    · split at h <;> cases h
    · split at h <;> cases h
  · rintro ⟨name, hname, hvalue⟩
    cases hname with
    | text => exact choiceOf_eq_ok_iff.2 hvalue
    | entry hcontent => rw [toChoice, choiceOf_eq_ok_iff.2 hvalue, hcontent]

end Datum

/-- A table of everything under its name finds a thing by its name alone. -/
theorem lookup_map_name {α : Type} {all : List α} {name : α → String} (hall : ∀ value, value ∈ all)
    (hdistinct : DistinctNames (all.map fun value => (name value, value))) {text : String}
    {value : α} :
    (all.map fun value => (name value, value)).lookup text = some value ↔ text = name value := by
  rw [hdistinct.lookup_eq_some_iff, List.mem_map]
  constructor
  · rintro ⟨_, -, ⟨⟩⟩
    rfl
  · rintro rfl
    exact ⟨value, hall value, rfl⟩

theorem Preset.ofDatum_eq_ok_iff {medium : Medium} {datum : Datum} {preset : Preset} :
    ofDatum medium datum = .ok preset ↔ datum.Names medium preset.name := by
  have hall : ∀ preset : Preset, preset ∈ all := by
    intro preset
    cases preset <;> decide
  have hdistinct : DistinctNames (all.map fun preset => (preset.name, preset)) := by
    change ["capture-1", "capture-2"].Nodup
    decide
  rw [ofDatum, Datum.toChoice_eq_ok_iff]
  simp only [lookup_map_name hall hdistinct, exists_eq_right]

theorem OutputFormat.ofDatum_eq_ok_iff {medium : Medium} {datum : Datum} {format : OutputFormat} :
    ofDatum medium datum = .ok format ↔ datum.Names medium format.name := by
  have hall : ∀ format : OutputFormat, format ∈ all := by
    intro format
    cases format <;> decide
  have hdistinct : DistinctNames (all.map fun format => (format.name, format)) := by
    change ["decimal", "hex", "console"].Nodup
    decide
  rw [ofDatum, Datum.toChoice_eq_ok_iff]
  simp only [lookup_map_name hall hdistinct, exists_eq_right]

theorem Datum.Names.unique {medium : Medium} {datum : Datum} {name other : String}
    (h : datum.Names medium name) (hother : datum.Names medium other) : name = other := by
  cases h <;> cases hother <;> rfl

/-- Where a value may be left out, nothing is read, or the value. -/
theorem Datum.toOptional_cases {α : Type} {read : Datum → Except Fault α} {datum : Datum}
    {content : Option α} (h : toOptional read datum = .ok content) :
    datum = .null ∧ content = none ∨ ∃ value, content = some value ∧ read datum = .ok value := by
  rw [toOptional.eq_def] at h
  split at h
  · cases h
    exact .inl ⟨rfl, rfl⟩
  · split at h
    · cases h
    · next value hvalue =>
      cases h
      exact .inr ⟨value, rfl, hvalue⟩

/-! ### Names in configuration files -/

namespace Config

variable {α : Type} {medium : Medium} {entries : List (String × Datum)}
  {fields : List (String × Config)} {name : String} {item : Datum} {said : Config}

theorem map_eq_ok_iff {ε α β : Type} {answer : Except ε α} {make : α → β} {made : β} :
    answer.map make = .ok made ↔ ∃ value, answer = .ok value ∧ make value = made := by
  cases answer <;> simp [Except.map]

/-- What one field says is what stands under its key. -/
theorem ofField_cases (hname : name ∈ record.fields) (h : ofField medium name item = .ok said) :
    (name = "preset" ∧ ∃ preset, Datum.toOptional (Preset.ofDatum medium) item = .ok preset ∧
        said = ⟨preset, none, none⟩) ∨
      (name = "separator" ∧ ∃ separator, said = ⟨none, separator, none⟩) ∨
      (name = "format" ∧ ∃ format, Datum.toOptional (OutputFormat.ofDatum medium) item =
        .ok format ∧ said = ⟨none, none, format⟩) := by
  rw [ofField] at h
  split at h
  · next hpreset =>
    obtain ⟨preset, hread, rfl⟩ := map_eq_ok_iff.1 h
    exact .inl ⟨hpreset, preset, hread, rfl⟩
  · next hpreset =>
    split at h
    · next hseparator =>
      obtain ⟨separator, -, rfl⟩ := map_eq_ok_iff.1 h
      exact .inr (.inl ⟨hseparator, separator, rfl⟩)
    · next hseparator =>
      have hformat : name = "format" := by
        simpa [record, hpreset, hseparator] using hname
      obtain ⟨format, hread, rfl⟩ := map_eq_ok_iff.1 h
      exact .inr (.inr ⟨hformat, format, hread, rfl⟩)

/-- **A key of a configuration**: what stands under it decides one value, and what stands under
another one does not. -/
structure IsKey {α : Type} (key : String) (component : Config → Option α)
    (read : Medium → Datum → Except Datum.Fault α) : Prop where
  mem_fields : key ∈ record.fields
  component_empty : component empty = none
  component_orElse : ∀ first second,
    component (orElse first second) = (component first).or (component second)
  under : ∀ medium item said, ofField medium key item = .ok said →
    Datum.toOptional (read medium) item = .ok (component said)
  beside : ∀ medium, ∀ name ∈ record.fields, name ≠ key → ∀ item said,
    ofField medium name item = .ok said → component said = none

theorem isKey_preset : IsKey "preset" preset Preset.ofDatum := by
  have hmem : "preset" ∈ record.fields := List.mem_cons_self
  refine ⟨hmem, rfl, fun _ _ => rfl, ?_, ?_⟩
  · intro medium item said h
    obtain ⟨-, preset, hread, rfl⟩ | ⟨hname, -⟩ | ⟨hname, -⟩ := ofField_cases hmem h
    · exact hread
    · exact absurd hname (by decide)
    · exact absurd hname (by decide)
  · intro medium name hname hne item said h
    obtain ⟨hpreset, -⟩ | ⟨-, separator, rfl⟩ | ⟨-, format, -, rfl⟩ := ofField_cases hname h
    · exact absurd hpreset hne
    · rfl
    · rfl

theorem isKey_format : IsKey "format" format OutputFormat.ofDatum := by
  have hmem : "format" ∈ record.fields := by decide
  refine ⟨hmem, rfl, fun _ _ => rfl, ?_, ?_⟩
  · intro medium item said h
    obtain ⟨hname, -⟩ | ⟨hname, -⟩ | ⟨-, format, hread, rfl⟩ := ofField_cases hmem h
    · exact absurd hname (by decide)
    · exact absurd hname (by decide)
    · exact hread
  · intro medium name hname hne item said h
    obtain ⟨-, preset, -, rfl⟩ | ⟨-, separator, rfl⟩ | ⟨hformat, -⟩ := ofField_cases hname h
    · rfl
    · rfl
    · exact absurd hformat hne

namespace IsKey

variable {key : String} {component : Config → Option α}
  {read : Medium → Datum → Except Datum.Fault α}

/-- A field that says something for a key is the one under the key. -/
theorem exists_item (h : IsKey key component read)
    (hread : record.readEntries (ofField medium) [] entries = .ok fields) {field : String × Config}
    (hfield : field ∈ fields) (hvalue : component field.2 ≠ none) :
    ∃ item, (key, item) ∈ entries ∧ ofField medium key item = .ok field.2 := by
  obtain ⟨name, said⟩ := field
  obtain ⟨hname, item, hitem, hsaid⟩ := (Datum.mem_iff_of_readEntries hread).1 hfield
  by_cases hkey : name = key
  · subst hkey
    exact ⟨item, hitem, hsaid⟩
  · exact absurd (h.beside medium name hname hkey item said hsaid) hvalue

/-- What stands under a key is the value of the configuration. -/
theorem value_under (h : IsKey key component read)
    (hread : record.readEntries (ofField medium) [] entries = .ok fields)
    (hdistinct : DistinctNames entries) (hitem : (key, item) ∈ entries) :
    Datum.toOptional (read medium) item =
      .ok (component (fields.foldr (fun field config => field.2.orElse config) empty)) := by
  obtain ⟨-, -, hall⟩ := Datum.exists_readEntries_iff.1 ⟨fields, hread⟩
  obtain ⟨said, hsaid⟩ := hall (key, item) hitem h.mem_fields
  have hmem : (key, said) ∈ fields :=
    (Datum.mem_iff_of_readEntries hread).2 ⟨h.mem_fields, item, hitem, hsaid⟩
  rw [h.under medium item said hsaid, component_foldr h.component_empty h.component_orElse]
  refine congrArg Except.ok ?_
  cases hfound : fields.findSome? fun field => component field.2 with
  | none => exact List.findSome?_eq_none_iff.1 hfound _ hmem
  | some value =>
      obtain ⟨field, hfield, hvalue⟩ := List.exists_of_findSome?_eq_some hfound
      obtain ⟨same, hsame, hsameSaid⟩ := h.exists_item hread hfield (by simp [hvalue])
      rw [hdistinct.eq_of_mem hsame hitem, hsaid] at hsameSaid
      rw [Except.ok.inj hsameSaid, hvalue]

/-- A value of the configuration stands under its key. -/
theorem exists_item_of_value (h : IsKey key component read)
    (hread : record.readEntries (ofField medium) [] entries = .ok fields) {value : α}
    (hvalue : component (fields.foldr (fun field config => field.2.orElse config) empty) =
      some value) : ∃ item, (key, item) ∈ entries := by
  rw [component_foldr h.component_empty h.component_orElse] at hvalue
  obtain ⟨field, hfield, hpresent⟩ := List.exists_of_findSome?_eq_some hvalue
  obtain ⟨item, hitem, -⟩ := h.exists_item hread hfield (by simp [hpresent])
  exact ⟨item, hitem⟩

end IsKey

/-- The configuration of a file is put together from the fields of its document. -/
theorem exists_fields_of_load {files : Files} {path : String} {config : Config}
    (h : load files path = .ok config) :
    ∃ text entries fields, files.readText path = .ok text ∧
      Toml.parse text = some (.mapping entries) ∧ DistinctNames entries ∧
      record.readEntries (ofField .toml) [] entries = .ok fields ∧
      config = fields.foldr (fun field config => field.2.orElse config) empty := by
  rw [load] at h
  cases htext : files.readText path with
  | error fault =>
      rw [htext] at h
      cases h
  | ok text =>
      rw [htext] at h
      dsimp only at h
      cases hparse : Toml.parse text with
      | none =>
          rw [readDocument, hparse] at h
          cases h
      | some document =>
          obtain ⟨entries, rfl, hdistinct⟩ := Toml.exists_entries_of_parse hparse
          rw [readDocument_of_parse hparse, ofDatum, Datum.Record.read] at h
          cases hread : record.readEntries (ofField .toml) [] entries with
          | error fault =>
              rw [hread] at h
              cases h
          | ok fields =>
              rw [hread] at h
              cases h
              exact ⟨text, entries, fields, rfl, hparse, hdistinct, hread, rfl⟩

end Config

/-! ### From a configuration to the command line -/

/-- A file gives a name under a key of its document. -/
def FileNames (files : Files) (path key name : String) : Prop :=
  ∃ text entries item, files.readText path = .ok text ∧
    Toml.parse text = some (.mapping entries) ∧ (key, item) ∈ entries ∧ item.Names .toml name

/-- **A value of a configuration file that can be moved to the command line**: each name that the
file gives for it is read as the value there too, and a value that the configuration has is named by
the file and given by that name behind the flag. -/
structure Movable {α : Type} (files : Files) (path key : String) (value? : Option α)
    (ofName : String → Except String α) (given : α → Overrides) : Prop where
  understood : ∀ name, FileNames files path key name →
    ∃ value, value? = some value ∧ ofName name = .ok value
  named : ∀ value, value? = some value → ∃ name, FileNames files path key name ∧
    CommandLine.parse ["--" ++ key, name] = .ok ⟨given value, none⟩

theorem movable_of_load {α : Type} {files : Files} {path key : String} {config : Config}
    (hload : Config.load files path = .ok config) {component : Config → Option α}
    {read : Medium → Datum → Except Datum.Fault α} (hkey : Config.IsKey key component read)
    {shown : α → String}
    (hread : ∀ medium datum value, read medium datum = .ok value ↔ datum.Names medium (shown value))
    {ofName : String → Except String α} (hofName : ∀ value, ofName (shown value) = .ok value)
    {given : α → Overrides}
    (hparse : ∀ value, CommandLine.parse ["--" ++ key, shown value] = .ok ⟨given value, none⟩) :
    Movable files path key (component config) ofName given := by
  obtain ⟨text, entries, fields, htext, hdocument, hdistinct, hfields, rfl⟩ :=
    Config.exists_fields_of_load hload
  constructor
  · rintro name ⟨text', entries', item, htext', hdocument', hitem, hname⟩
    rw [htext] at htext'
    cases htext'
    rw [hdocument] at hdocument'
    cases hdocument'
    obtain ⟨rfl, -⟩ | ⟨value, hvalue, hsaid⟩ :=
      Datum.toOptional_cases (hkey.value_under hfields hdistinct hitem)
    · cases hname
    · refine ⟨value, hvalue, ?_⟩
      rw [hname.unique ((hread .toml item value).1 hsaid)]
      exact hofName value
  · intro value hvalue
    obtain ⟨item, hitem⟩ := hkey.exists_item_of_value hfields hvalue
    obtain ⟨-, hnone⟩ | ⟨same, hsame, hsaid⟩ :=
      Datum.toOptional_cases (hkey.value_under hfields hdistinct hitem)
    · rw [hvalue] at hnone
      cases hnone
    · rw [hvalue] at hsame
      cases hsame
      exact ⟨shown value, ⟨text, entries, item, htext, hdocument, hitem,
        (hread .toml item value).1 hsaid⟩, hparse value⟩

theorem parse_preset (preset : Preset) :
    CommandLine.parse ["--" ++ "preset", preset.name] =
      .ok ⟨{ Overrides.empty with preset := some preset }, none⟩ := by
  cases preset <;> decide +kernel

theorem parse_format (format : OutputFormat) :
    CommandLine.parse ["--" ++ "format", format.name] =
      .ok ⟨{ Overrides.empty with format := some format }, none⟩ := by
  cases format <;> decide +kernel

/-- Settings do not change when names move from a configuration to the gaps of the command line. -/
theorem Settings.resolve_moved (given : Overrides) (config : Config) :
    resolve { given with
        preset := given.preset.or config.preset
        format := given.format.or config.format } (some ⟨none, config.separator, none⟩) =
      resolve given (some config) := by
  rw [resolve_filledFrom, resolve_filledFrom]
  simp only [Overrides.filledFrom, Option.or_none]

/-- **Which names are accepted, and that they can be moved.**  Formats and captures are named by
their names, up to the case of ASCII letters, and any other text is refused.  Case matters to
neither reader, but for the refusal of a capture, which quotes the text as it is given.  A text that
is accepted has visible characters of ASCII only.  What is shown for a format or a capture is read
as the same.  Structured values give formats and captures by names that are read as the same, and so
do configuration files, in which these values can be moved to the command line; the settings are the
same then. -/
theorem names_accepted :
    (KnowsNames OutputFormat.names OutputFormat.unknownMessage OutputFormat.ofName ∧
      KnowsNames Preset.names Preset.unknownMessage Preset.ofName) ∧
    (∀ text other, SameButCase text other →
      OutputFormat.ofName text = OutputFormat.ofName other ∧
        ∀ preset, Preset.ofName text = .ok preset ↔ Preset.ofName other = .ok preset) ∧
    (∀ text, (∃ c ∈ text.toList, ¬ IsVisible c) →
      OutputFormat.ofName text = .error (OutputFormat.unknownMessage text) ∧
        Preset.ofName text = .error (Preset.unknownMessage text)) ∧
    ((∀ format : OutputFormat, OutputFormat.ofName format.name = .ok format) ∧
      ∀ preset : Preset, Preset.ofName preset.name = .ok preset) ∧
    ((∀ medium datum format, OutputFormat.ofDatum medium datum = .ok format →
        ∃ name, datum.Names medium name ∧ OutputFormat.ofName name = .ok format) ∧
      ∀ medium datum preset, Preset.ofDatum medium datum = .ok preset →
        ∃ name, datum.Names medium name ∧ Preset.ofName name = .ok preset) ∧
    ∀ files path config, Config.load files path = .ok config →
      Movable files path "format" config.format OutputFormat.ofName
          (fun format => { Overrides.empty with format := some format }) ∧
        Movable files path "preset" config.preset Preset.ofName
          (fun preset => { Overrides.empty with preset := some preset }) ∧
        ∀ given : Overrides,
          Settings.resolve { given with
              preset := given.preset.or config.preset
              format := given.format.or config.format } (some ⟨none, config.separator, none⟩) =
            Settings.resolve given (some config) := by
  refine ⟨⟨OutputFormat.knowsNames, Preset.knowsNames⟩, ?_, ?_,
    ⟨OutputFormat.ofName_name, Preset.ofName_name⟩, ⟨?_, ?_⟩, ?_⟩
  · intro text other hsame
    exact ⟨OutputFormat.ofName_congr hsame, Preset.knowsNames.read_eq_ok_congr hsame⟩
  · rintro text ⟨c, hc, hhidden⟩
    exact ⟨OutputFormat.knowsNames.refuses_of_not_isVisible OutputFormat.plain_names hc hhidden,
      Preset.knowsNames.refuses_of_not_isVisible Preset.plain_names hc hhidden⟩
  · intro medium datum format hread
    exact ⟨_, OutputFormat.ofDatum_eq_ok_iff.1 hread, format.ofName_name⟩
  · intro medium datum preset hread
    exact ⟨_, Preset.ofDatum_eq_ok_iff.1 hread, preset.ofName_name⟩
  · intro files path config hload
    refine ⟨?_, ?_, fun given => Settings.resolve_moved given config⟩
    · exact movable_of_load hload Config.isKey_format
        (fun _ _ _ => OutputFormat.ofDatum_eq_ok_iff) OutputFormat.ofName_name parse_format
    · exact movable_of_load hload Config.isKey_preset
        (fun _ _ _ => Preset.ofDatum_eq_ok_iff) Preset.ofName_name parse_preset

/-- A shouted name, a name with a blank behind it, and a file that names a format and, as a choice
with nothing in it, a capture. -/
theorem names_accepted_shouted :
    let files : Files := ⟨fun _ => .ok "format = 'hex'\npreset = \x7b capture-2 = \x7b\x7d \x7d\n"⟩
    let config : Config := ⟨some .capture2, none, some .hex⟩
    SameButCase "CONSOLE" "console" ∧ OutputFormat.ofName "CONSOLE" = .ok .console ∧
      Preset.ofName "capture-1 " = .error (Preset.unknownMessage "capture-1 ") ∧
      Config.load files "box.toml" = .ok config ∧
      (∃ name, FileNames files "box.toml" "preset" name ∧
        CommandLine.parse ["--preset", name] =
          .ok ⟨{ Overrides.empty with preset := some .capture2 }, none⟩) ∧
      Settings.resolve ⟨some .capture2, none, none, none, none, some .hex⟩ (some .empty) =
        Settings.resolve .empty (some config) := by
  intro files config
  have hsame : SameButCase "CONSOLE" "console" := sameButCase_iff.2 (by decide)
  have hload : Config.load files "box.toml" = .ok config := by cbv
  obtain ⟨-, hcase, hhidden, ⟨hshown, -⟩, -, hfile⟩ := names_accepted
  obtain ⟨-, hpreset, hmoved⟩ := hfile files "box.toml" config hload
  refine ⟨hsame, ?_, (hhidden "capture-1 " ⟨' ', by decide, by decide⟩).2, hload,
    hpreset.named .capture2 rfl, hmoved .empty⟩
  rw [(hcase _ _ hsame).1]
  exact hshown .console

/-- A name of no capture is quoted as it is given: the refusals of two spellings differ. -/
theorem unknown_capture_quoted_as_given :
    SameButCase "Capture-3" "capture-3" ∧
      Preset.ofName "Capture-3" =
        .error "unknown preset 'Capture-3'. Valid presets: capture-1, capture-2" ∧
      Preset.ofName "capture-3" =
        .error "unknown preset 'capture-3'. Valid presets: capture-1, capture-2" ∧
      Preset.ofName "Capture-3" ≠ Preset.ofName "capture-3" :=
  ⟨sameButCase_iff.2 (by decide), by decide +kernel, by decide +kernel, by decide +kernel⟩

end PegBox
