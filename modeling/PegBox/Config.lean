/-
**Configuration files.**

A configuration can name a bench capture, a separator and a format; it need not name any of them.
It is kept in a TOML document that holds nothing else.

Main definitions:

* `PegBox.Config` — **a configuration**;
* `PegBox.Config.orElse` — a configuration with the gaps filled from another;
* `PegBox.Config.toDatum`, `PegBox.Config.ofDatum` — the structured form of a configuration;
* `PegBox.Config.load` — the configuration of a file.
-/

import PegBox.Failure

set_option autoImplicit false

namespace PegBox

/-- **A configuration.** -/
structure Config where
  preset : Option Preset
  separator : Option String
  format : Option OutputFormat
  deriving DecidableEq

namespace Config

/-- The configuration that leaves everything open. -/
def empty : Config := ⟨none, none, none⟩

/-- A configuration with the gaps filled from another. -/
def orElse (first second : Config) : Config :=
  ⟨first.preset.or second.preset, first.separator.or second.separator,
    first.format.or second.format⟩

/-! ### The structured form -/

/-- The structured form of what may be left out. -/
def optionalDatum {α : Type} (form : α → Datum) : Option α → Datum
  | none => .null
  | some value => form value

/-- The structured form of a configuration. -/
def toDatum (config : Config) : Datum :=
  .mapping
    [("preset", optionalDatum Preset.toDatum config.preset),
      ("separator", optionalDatum .text config.separator),
      ("format", optionalDatum OutputFormat.toDatum config.format)]

/-- The record of a configuration, which refuses other fields. -/
def record : Datum.Record := ⟨"CalibrationConfig", ["preset", "separator", "format"], true⟩

/-- The configuration that one field makes. -/
def ofField (medium : Medium) (name : String) (item : Datum) : Except Datum.Fault Config :=
  if name = "preset" then
    (Datum.toOptional (Preset.ofDatum medium) item).map fun preset => ⟨preset, none, none⟩
  else if name = "separator" then
    (Datum.toOptional Datum.toText item).map fun separator => ⟨none, separator, none⟩
  else (Datum.toOptional (OutputFormat.ofDatum medium) item).map fun format => ⟨none, none, format⟩

/-- A configuration from its structured form. -/
def ofDatum (medium : Medium) (datum : Datum) : Except Datum.Fault Config :=
  match record.read (ofField medium) datum with
  | .error fault => .error fault
  | .ok fields => .ok (fields.foldr (fun field config => field.2.orElse config) empty)

/-! ### Files -/

/-- The configuration of a file. -/
def load (files : Files) (path : String) : Except Failure Config :=
  match files.readText path with
  | .error fault => .error (.configRead path fault)
  | .ok text =>
    match readDocument (ofDatum .toml) text with
    | .error fault => .error (.configParse path fault)
    | .ok config => .ok config

end Config

end PegBox
