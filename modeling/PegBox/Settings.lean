/-
**Settings of a run.**

What is given on the command line counts before the configuration file, and the configuration file
before what comes with the bench capture.  Readings are given on the command line only: both
captures as they are, or a file; without either the bench capture is used.

Main definitions:

* `PegBox.Overrides` — what is given on the command line;
* `PegBox.Settings` — the settings of a run;
* `PegBox.Settings.forPreset` — the settings that come with a bench capture;
* `PegBox.Settings.resolve` — **the settings of overrides and a configuration**, or the
  contradiction between them.
-/

import PegBox.Config

set_option autoImplicit false

namespace PegBox

/-- What is given on the command line. -/
structure Overrides where
  preset : Option Preset
  highs : Option (List Float)
  lows : Option (List Float)
  readings : Option String
  separator : Option String
  format : Option OutputFormat
  deriving DecidableEq

/-- Nothing is given. -/
def Overrides.empty : Overrides := ⟨none, none, none, none, none, none⟩

/-- The settings of a run. -/
structure Settings where
  source : Source
  separator : String
  format : OutputFormat
  deriving DecidableEq

namespace Settings

/-- The settings that come with a bench capture. -/
def forPreset (preset : Preset) : Settings := ⟨.preset preset, preset.separator, .standard⟩

/-- The settings of a run that asks for nothing. -/
def standard : Settings := forPreset .standard

/-- The readings that are given as they are, if they are; half of them is a contradiction. -/
def inlineReadings (overrides : Overrides) : Except Failure (Option ReadingSet) :=
  match overrides.highs, overrides.lows with
  | some highs, some lows =>
    match ReadingSet.ofLists highs lows with
    | .error fault => .error (.calibration fault)
    | .ok set => .ok (some set)
  | none, none => .ok none
  | _, _ => .error (.usage .halfReadings)

/-- Where the readings come from: given as they are, or a file, or the bench capture. -/
def sourceOf (inline : Option ReadingSet) (path : Option String) (preset : Preset) :
    Except Failure Source :=
  match inline, path with
  | some _, some _ => .error (.usage .readingsAndFile)
  | some set, none => .ok (.inline set)
  | none, some path => .ok (.file path)
  | none, none => .ok (.preset preset)

/-- **The settings of overrides and a configuration.** -/
def resolve (overrides : Overrides) (config : Option Config) : Except Failure Settings :=
  let config := config.getD .empty
  let preset := (overrides.preset.or config.preset).getD .standard
  match inlineReadings overrides with
  | .error failure => .error failure
  | .ok inline =>
    match sourceOf inline overrides.readings preset with
    | .error failure => .error failure
    | .ok source =>
      .ok
        ⟨source, (overrides.separator.or config.separator).getD preset.separator,
          (overrides.format.or config.format).getD .standard⟩

end Settings

end PegBox
