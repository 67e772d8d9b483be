/-
**Settings are layered.**

Three layers name the settings of a run: the command line, the configuration file, and the bench
capture that is asked for.  For each setting the first layer that names it counts.  A configuration
can therefore be taken for gaps of the command line that it fills, and it never decides whether the
settings resolve: only the captures on the command line can be at fault, and only the command line
can contradict itself.

Main definitions:

* `PegBox.FirstPresent` — **the first value that is present** in a row of layers;
* `PegBox.Overrides.filledFrom` — overrides with the gaps filled from a configuration;
* `PegBox.Overrides.Consistent`, `PegBox.Overrides.Refused` — overrides that resolve, and why others
  do not;
* `PegBox.Layered` — **the settings that the layers name**.

Main results:

* `PegBox.Settings.resolve_eq` — the source is chosen first, and only it can be refused;
* `PegBox.Overrides.chosen_eq_ok_iff`, `PegBox.Overrides.chosen_eq_error_iff` — which source is
  chosen, and why none is;
* `PegBox.resolve_layered` — **the settings of overrides and a configuration**.
-/

import PegBox.Proofs.InlineAndFile

set_option autoImplicit false

namespace PegBox

/-! ### Layers -/

/-- **The first value that is present** in a row of layers. -/
inductive FirstPresent {α : Type} : List (Option α) → α → Prop where
  | here (value : α) (below : List (Option α)) : FirstPresent (some value :: below) value
  | later {value : α} {below : List (Option α)} (h : FirstPresent below value) :
      FirstPresent (none :: below) value

/-- Of a flag, a configuration and what is there in any case, the first counts that is present. -/
theorem firstPresent_iff {α : Type} {flag config : Option α} {fallback value : α} :
    FirstPresent [flag, config, some fallback] value ↔ (flag.or config).getD fallback = value := by
  constructor
  · rintro (_ | _ | _ | _) <;> rfl
  · rintro rfl
    cases flag with
    | some value => exact .here value _
    | none =>
        cases config with
        | some value => exact .later (.here value _)
        | none => exact .later (.later (.here fallback _))

/-- Overrides with the gaps filled from a configuration. -/
def Overrides.filledFrom (given : Overrides) (config : Config) : Overrides :=
  { given with
    preset := given.preset.or config.preset
    separator := given.separator.or config.separator
    format := given.format.or config.format }

/-! ### What the layers name -/

/-- Overrides that do not contradict themselves: there are no captures, or both, and then they pair
up and no file is given beside them. -/
def Overrides.Consistent (given : Overrides) : Prop :=
  (given.highs = none ∧ given.lows = none) ∨
    ∃ highs lows, given.highs = some highs ∧ given.lows = some lows ∧ PairsUp highs lows ∧
      given.readings = none

/-- Why overrides do not resolve.  The fault of two captures is named also where a file is given
beside them. -/
inductive Overrides.Refused (given : Overrides) : Failure → Prop where
  | fault {highs lows : List Float} {fault : InputFault} (hhighs : given.highs = some highs)
      (hlows : given.lows = some lows) (hfault : HasFault highs lows fault) :
      Refused given (.calibration fault)
  | halfReadings (hhalf : given.highs.isSome ≠ given.lows.isSome) :
      Refused given (.usage .halfReadings)
  | readingsAndFile {highs lows : List Float} {path : String} (hhighs : given.highs = some highs)
      (hlows : given.lows = some lows) (hpairs : PairsUp highs lows)
      (hpath : given.readings = some path) :
      Refused given (.usage .readingsAndFile)

/-- The source that overrides name: their captures; without them their file; without it the bench
capture. -/
inductive Overrides.Names (given : Overrides) (preset : Preset) : Source → Prop where
  | inline (set : ReadingSet) (hhighs : given.highs = some set.highs)
      (hlows : given.lows = some set.lows) : Names given preset (.inline set)
  | file {path : String} (hhighs : given.highs = none) (hpath : given.readings = some path) :
      Names given preset (.file path)
  | preset (hhighs : given.highs = none) (hpath : given.readings = none) :
      Names given preset (.preset preset)

/-- **The settings that the layers name**, with the bench capture that is asked for.  Its separator
is the last one to count, also where the readings are not its own. -/
structure Layered (given : Overrides) (config : Option Config) (capture : Preset)
    (settings : Settings) : Prop where
  capture_first : FirstPresent [given.preset, config.bind Config.preset, some .capture1] capture
  source_named : given.Names capture settings.source
  separator_first : FirstPresent
    [given.separator, config.bind Config.separator, some capture.separator] settings.separator
  format_first : FirstPresent
    [given.format, config.bind Config.format, some .decimal] settings.format

/-! ### The choice of the source -/

/-- The source that is chosen for overrides and a bench capture, or why there is none. -/
def Overrides.chosen (given : Overrides) (capture : Preset) : Except Failure Source :=
  match Settings.inlineReadings given with
  | .error failure => .error failure
  | .ok inline => Settings.sourceOf inline given.readings capture

/-- The bench capture that is asked for. -/
def askedCapture (given : Overrides) (config : Option Config) : Preset :=
  (given.preset.or (config.bind Config.preset)).getD .capture1

namespace Settings

variable {given : Overrides} {config : Option Config}

/-- A missing configuration leaves everything open. -/
theorem ofSource_eq (given : Overrides) (config : Option Config) (source : Source) :
    ofSource given config source =
      ⟨source,
        (given.separator.or (config.bind Config.separator)).getD
          (askedCapture given config).separator,
        (given.format.or (config.bind Config.format)).getD .decimal⟩ := by
  cases config <;> rfl

/-- The source is chosen first, and only it can be refused. -/
theorem resolve_eq (given : Overrides) (config : Option Config) :
    resolve given config =
      (given.chosen (askedCapture given config)).map (ofSource given config) := by
  have hcapture : askedCapture given config =
      (given.preset.or (config.getD .empty).preset).getD .standard := by
    cases config <;> rfl
  rw [hcapture, resolve, Overrides.chosen]
  cases inlineReadings given with
  | error failure => rfl
  | ok inline =>
      dsimp only
      cases sourceOf inline given.readings _ <;> rfl

/-- The settings of a source are those that the layers name. -/
theorem layered_ofSource {source : Source} (h : given.Names (askedCapture given config) source) :
    Layered given config (askedCapture given config) (ofSource given config source) := by
  rw [ofSource_eq]
  exact ⟨firstPresent_iff.2 rfl, h, firstPresent_iff.2 rfl, firstPresent_iff.2 rfl⟩

end Settings

/-- The layers name one capture and, with a source, one row of settings. -/
theorem Layered.eq_ofSource {given : Overrides} {config : Option Config} {capture : Preset}
    {settings : Settings} (h : Layered given config capture settings) :
    capture = askedCapture given config ∧
      settings = Settings.ofSource given config settings.source := by
  obtain ⟨hcapture, -, hseparator, hformat⟩ := h
  rw [firstPresent_iff] at hcapture hseparator hformat
  have hcapture : capture = askedCapture given config := hcapture.symm
  refine ⟨hcapture, ?_⟩
  rw [Settings.ofSource_eq, hformat, ← hcapture, hseparator]

namespace Overrides

variable {given : Overrides} {capture : Preset}

/-- Captures that are given as they are are judged first. -/
theorem inlineReadings_of_captures {highs lows : List Float} (hhighs : given.highs = some highs)
    (hlows : given.lows = some lows) :
    Settings.inlineReadings given =
      ((ReadingSet.ofLists highs lows).map some).mapError .calibration := by
  rw [Settings.inlineReadings, hhighs, hlows]
  dsimp only
  cases ReadingSet.ofLists highs lows <;> rfl

theorem inlineReadings_of_none (hhighs : given.highs = none) (hlows : given.lows = none) :
    Settings.inlineReadings given = .ok none := by
  rw [Settings.inlineReadings, hhighs, hlows]

theorem Consistent.lows_eq_none (h : given.Consistent) (hhighs : given.highs = none) :
    given.lows = none := by
  obtain ⟨-, hlows⟩ | ⟨_, _, hsome, -⟩ := h
  · exact hlows
  · rw [hhighs] at hsome
    cases hsome

theorem Consistent.readings_eq_none (h : given.Consistent) {highs : List Float}
    (hhighs : given.highs = some highs) : given.readings = none := by
  obtain ⟨hnone, -⟩ | ⟨_, _, -, -, -, hpath⟩ := h
  · rw [hhighs] at hnone
    cases hnone
  · exact hpath

/-- Consistent overrides name a source. -/
theorem Consistent.exists_names (h : given.Consistent) (capture : Preset) :
    ∃ source, given.Names capture source := by
  obtain ⟨hhighs, -⟩ | ⟨highs, lows, hhighs, hlows, hpairs, -⟩ := h
  · cases hpath : given.readings with
    | none => exact ⟨_, .preset hhighs hpath⟩
    | some path => exact ⟨_, .file hhighs hpath⟩
  · have hpaired := pairingFault?_eq_none_iff_pairsUp.2 hpairs
    exact ⟨_, .inline ⟨highs, lows, hpaired⟩ hhighs hlows⟩

/-- The source that consistent overrides name is chosen. -/
theorem Consistent.chosen (h : given.Consistent) {source : Source}
    (hnames : given.Names capture source) : given.chosen capture = .ok source := by
  cases hnames with
  | inline set hhighs hlows =>
      rw [Overrides.chosen, inlineReadings_of_captures hhighs hlows, ReadingSet.ofLists_self,
        h.readings_eq_none hhighs]
      rfl
  | file hhighs hpath =>
      rw [Overrides.chosen, inlineReadings_of_none hhighs (h.lows_eq_none hhighs), hpath]
      rfl
  | preset hhighs hpath =>
      rw [Overrides.chosen, inlineReadings_of_none hhighs (h.lows_eq_none hhighs), hpath]
      rfl

/-- What is refused is refused for the reason that it has. -/
theorem Refused.chosen {failure : Failure} (h : given.Refused failure) :
    given.chosen capture = .error failure := by
  cases h with
  | fault hhighs hlows hfault =>
      rw [Overrides.chosen, inlineReadings_of_captures hhighs hlows,
        ReadingSet.ofLists_of_fault (pairingFault?_eq_some_iff.2 hfault)]
      rfl
  | halfReadings hhalf =>
      rw [Overrides.chosen, Settings.inlineReadings]
      cases hhighs : given.highs with
      | none =>
          cases hlows : given.lows with
          | none => exact absurd (by rw [hhighs, hlows]) hhalf
          | some lows => rfl
      | some highs =>
          cases hlows : given.lows with
          | none => rfl
          | some lows => exact absurd (by rw [hhighs, hlows]; rfl) hhalf
  | readingsAndFile hhighs hlows hpairs hpath =>
      rw [Overrides.chosen, inlineReadings_of_captures hhighs hlows,
        ReadingSet.ofLists_of_paired (pairingFault?_eq_none_iff_pairsUp.2 hpairs), hpath]
      rfl

/-- Overrides are consistent, or there is a reason to refuse them. -/
theorem consistent_or_refused (given : Overrides) :
    given.Consistent ∨ ∃ failure, given.Refused failure := by
  cases hhighs : given.highs with
  | none =>
      cases hlows : given.lows with
      | none => exact .inl (.inl ⟨hhighs, hlows⟩)
      | some lows => exact .inr ⟨_, .halfReadings (by simp [hhighs, hlows])⟩
  | some highs =>
      cases hlows : given.lows with
      | none => exact .inr ⟨_, .halfReadings (by simp [hhighs, hlows])⟩
      | some lows =>
          cases hverdict : pairingFault? highs lows with
          | some fault =>
              exact .inr ⟨_, .fault hhighs hlows (pairingFault?_eq_some_iff.1 hverdict)⟩
          | none =>
              have hpairs := pairingFault?_eq_none_iff_pairsUp.1 hverdict
              cases hpath : given.readings with
              | none => exact .inl (.inr ⟨highs, lows, hhighs, hlows, hpairs, hpath⟩)
              | some path => exact .inr ⟨_, .readingsAndFile hhighs hlows hpairs hpath⟩

/-- The source that is chosen is the one that is named, and one is chosen exactly for consistent
overrides. -/
theorem chosen_eq_ok_iff {source : Source} :
    given.chosen capture = .ok source ↔ given.Consistent ∧ given.Names capture source := by
  constructor
  · intro h
    obtain hconsistent | ⟨failure, hrefused⟩ := given.consistent_or_refused
    · obtain ⟨named, hnames⟩ := hconsistent.exists_names capture
      rw [hconsistent.chosen hnames] at h
      cases h
      exact ⟨hconsistent, hnames⟩
    · rw [hrefused.chosen] at h
      cases h
  · rintro ⟨hconsistent, hnames⟩
    exact hconsistent.chosen hnames

/-- No source is chosen exactly where the overrides are refused, and for that reason. -/
theorem chosen_eq_error_iff (capture : Preset) {failure : Failure} :
    given.chosen capture = .error failure ↔ given.Refused failure := by
  constructor
  · intro h
    obtain hconsistent | ⟨reason, hrefused⟩ := given.consistent_or_refused
    · obtain ⟨named, hnames⟩ := hconsistent.exists_names capture
      rw [hconsistent.chosen hnames] at h
      cases h
    · rw [hrefused.chosen] at h
      cases h
      exact hrefused
  · exact Refused.chosen

end Overrides

/-! ### The settings -/

namespace Settings

variable {given : Overrides} {config : Option Config}

/-- Settings resolve exactly for consistent overrides, and are those that the layers name. -/
theorem resolve_eq_ok_iff {settings : Settings} :
    resolve given config = .ok settings ↔
      given.Consistent ∧ ∃ capture, Layered given config capture settings := by
  rw [resolve_eq]
  constructor
  · intro h
    cases hchosen : given.chosen (askedCapture given config) with
    | error failure =>
        rw [hchosen] at h
        cases h
    | ok source =>
        rw [hchosen] at h
        cases h
        obtain ⟨hconsistent, hnames⟩ := Overrides.chosen_eq_ok_iff.1 hchosen
        exact ⟨hconsistent, _, layered_ofSource hnames⟩
  · rintro ⟨hconsistent, capture, hlayered⟩
    obtain ⟨rfl, hsettings⟩ := hlayered.eq_ofSource
    rw [hconsistent.chosen hlayered.source_named, hsettings]
    rfl

/-- Settings do not resolve exactly where the overrides are refused, and for that reason. -/
theorem resolve_eq_error_iff {failure : Failure} :
    resolve given config = .error failure ↔ given.Refused failure := by
  rw [resolve_eq, ← Overrides.chosen_eq_error_iff (askedCapture given config)]
  cases given.chosen (askedCapture given config) <;> simp [Except.map]

/-- Consistent overrides resolve, whatever the configuration. -/
theorem exists_resolve_iff :
    (∃ settings, resolve given config = .ok settings) ↔ given.Consistent := by
  constructor
  · rintro ⟨settings, h⟩
    exact (resolve_eq_ok_iff.1 h).1
  · intro h
    obtain ⟨source, hnames⟩ := h.exists_names (askedCapture given config)
    exact ⟨_, resolve_eq_ok_iff.2 ⟨h, _, layered_ofSource hnames⟩⟩

/-- A configuration counts as the gaps of the command line that it fills. -/
theorem resolve_filledFrom (given : Overrides) (layer : Config) :
    resolve given (some layer) = resolve (given.filledFrom layer) none := by
  have hcapture : askedCapture (given.filledFrom layer) none =
      askedCapture given (some layer) := by
    simp [askedCapture, Overrides.filledFrom]
  have hsource : ofSource (given.filledFrom layer) none = ofSource given (some layer) := by
    funext source
    rw [ofSource_eq, ofSource_eq, hcapture]
    simp [Overrides.filledFrom]
  rw [resolve_eq, resolve_eq, hcapture, hsource]
  rfl

end Settings

/-- **The settings of overrides and a configuration.**  A configuration counts as the gaps of the
command line that it fills, and a missing one as one that leaves everything open.  Settings resolve
exactly for consistent overrides, so a configuration does not decide it; they are those that the
layers name.  Other overrides are refused for the reason that they have: the fault of their
captures, or a contradiction. -/
theorem resolve_layered (given : Overrides) (config : Option Config) :
    (∀ layer, Settings.resolve given (some layer) =
      Settings.resolve (given.filledFrom layer) none) ∧
    Settings.resolve given none = Settings.resolve given (some .empty) ∧
    ((∃ settings, Settings.resolve given config = .ok settings) ↔ given.Consistent) ∧
    (∀ settings, Settings.resolve given config = .ok settings ↔
      given.Consistent ∧ ∃ capture, Layered given config capture settings) ∧
    ∀ failure, Settings.resolve given config = .error failure ↔ given.Refused failure :=
  ⟨Settings.resolve_filledFrom given, rfl, Settings.exists_resolve_iff,
    fun _ => Settings.resolve_eq_ok_iff, fun _ => Settings.resolve_eq_error_iff⟩

/-- A separator on the command line counts before the one in the file; the file names the rest. -/
example :
    Settings.resolve ⟨none, none, none, none, some "|", none⟩
      (some ⟨some .capture2, some ";", some .hex⟩) = .ok ⟨.preset .capture2, "|", .hex⟩ := rfl

end PegBox
