/-
**What a run may do to its output, and how it may fail.**

A run loads, renders and then hands its line to the output, once.  To state that nothing is handed
over before, or twice, an output is wrapped in one that remembers what it was handed; the wrapped
output answers as the output does, so what is proved of it is true of every output.

The settings decide which failures are possible.  The bench captures are captures of whole counts,
one pair for each peg, and can be shown in every format; readings that are given as they are have
been paired up before the run; the decimal format shows any midpoint.

Main definitions:

* `PegBox.Recorded` — an output that remembers what it was handed;
* `PegBox.Settings.Allows` — **the failures that settings allow**.

Main results:

* `PegBox.Settings.run_recorded` — remembering makes no difference to a run;
* `PegBox.Settings.line_of_preset`, `PegBox.Settings.line_of_inline_decimal` — settings that always
  have a line;
* `PegBox.Settings.line_of_missing`, `PegBox.Settings.line_of_below_zero` — failures that do occur;
* `PegBox.Settings.run_outcome` — **the outcome of a run**, on every output.
-/

import PegBox.Proofs.CountCapture
import PegBox.Run

set_option autoImplicit false

namespace PegBox

/-! ### Remembering what was handed over -/

/-- An output that remembers what it was handed. -/
structure Recorded (σ : Type) where
  handed : List String
  output : σ

instance {σ : Type} [LineOutput σ] : LineOutput (Recorded σ) where
  emit line recorded :=
    match LineOutput.emit line recorded.output with
    | (answer, after) => (answer, ⟨recorded.handed ++ [line], after⟩)

namespace Settings

variable {σ : Type} [LineOutput σ]

/-- A run hands over its line, once. -/
theorem run_recorded_of_line {settings : Settings} {files : Files} {line : String}
    (h : settings.line files = .ok line) (output : σ) :
    settings.run files (⟨[], output⟩ : Recorded σ) =
      (answerTo line (LineOutput.emit line output).1,
        ⟨[line], (LineOutput.emit line output).2⟩) :=
  run_of_line h _

/-- Remembering makes no difference to a run. -/
theorem run_recorded (settings : Settings) (files : Files) (output : σ) :
    settings.run files output =
      ((settings.run files (⟨[], output⟩ : Recorded σ)).1,
        (settings.run files (⟨[], output⟩ : Recorded σ)).2.output) := by
  cases hline : settings.line files with
  | error failure => rw [run_of_line_error hline, run_of_line_error hline]
  | ok line =>
      rw [run_of_line hline, run_recorded_of_line hline]

/-- With a line, a run fails by its output only. -/
theorem output_of_answerTo (line : String) (answer : Except OutputError Unit) (failure : Failure)
    (h : answerTo line answer = .error failure) : ∃ error, failure = .output error := by
  cases answer with
  | error error =>
      cases h
      exact ⟨error, rfl⟩
  | ok _ => cases h

/-! ### Settings that always have a line -/

/-- A bench capture loads, and the box can store its midpoints. -/
theorem load_preset (preset : Preset) (files : Files) :
    ∃ readings, (Source.preset preset).load files = .ok readings ∧
      (∀ mid ∈ Calibration.standard.apply readings, Storable mid) ∧
      (Calibration.standard.apply readings).length = pegCount := by
  have hlength : preset.highs.length = preset.lows.length := by cases preset <;> rfl
  have hne : preset.highs ≠ [] := by cases preset <;> exact List.cons_ne_nil _ _
  have hpegs : preset.highs.length = pegCount := by cases preset <;> rfl
  obtain ⟨readings, hreadings, hhighs, hlows⟩ := ofCounts_of_length_eq hlength hne
  refine ⟨readings, ?_, storable_of_counts hhighs hlows, ?_⟩
  · rw [Source.load, Preset.readings, hreadings]
  · rw [Calibration.length_apply, ReadingSet.size, hhighs, List.length_map, hpegs]

/-- A bench capture has a line in every format. -/
theorem line_of_preset {settings : Settings} {preset : Preset}
    (h : settings.source = .preset preset) (files : Files) :
    ∃ line, settings.line files = .ok line := by
  obtain ⟨readings, hload, hstorable, hpegs⟩ := load_preset preset files
  have hrender : ∃ line,
      render (Calibration.standard.apply readings) settings.format settings.separator =
        .ok line := by
    cases settings.format with
    | decimal => exact ⟨_, rfl⟩
    | hex => exact ⟨_, render_hex_of_storable settings.separator hstorable⟩
    | console => exact render_console_of_storable settings.separator hpegs hstorable
  obtain ⟨line, hline⟩ := hrender
  exact ⟨line, line_eq_ok_iff.2 ⟨readings, by rw [h, hload], hline⟩⟩

/-- Readings that are given as they are have a decimal line. -/
theorem line_of_inline_decimal {settings : Settings} {set : ReadingSet}
    (h : settings.source = .inline set) (hformat : settings.format = .decimal) (files : Files) :
    ∃ line, settings.line files = .ok line :=
  ⟨_, line_eq_ok_iff.2 ⟨set, by rw [h, Source.load], by rw [hformat, render]⟩⟩

/-! ### The outcome of a run -/

/-- **The failures that settings allow**: the source fails only if it is a file; the report is
refused only in a format that shows what is stored, and not for a bench capture; the output may
always fail; no other stage is part of a run. -/
def Allows (settings : Settings) : Failure → Prop
  | .source _ => ∃ path, settings.source = .file path
  | .report _ => settings.format ≠ .decimal ∧ ∀ preset, settings.source ≠ .preset preset
  | .output _ => True
  | .calibration _ => False
  | .configRead _ _ => False
  | .configParse _ _ => False
  | .usage _ => False

/-- A run has no line only for a reason that its settings allow. -/
theorem allows_of_line_error {settings : Settings} {files : Files} {failure : Failure}
    (h : settings.line files = .error failure) : settings.Allows failure := by
  -- both kinds of failure are ruled out for a bench capture by the line that it has
  have hpreset (preset : Preset) : settings.source ≠ .preset preset := by
    intro hsource
    obtain ⟨line, hline⟩ := line_of_preset hsource files
    rw [hline] at h
    cases h
  obtain ⟨error, hload, rfl⟩ | ⟨readings, refusal, hload, hrender, rfl⟩ := line_error_cases h
  · cases hsource : settings.source with
    | preset preset => exact absurd hsource (hpreset preset)
    | inline set =>
        rw [hsource, Source.load] at hload
        cases hload
    | file path => exact ⟨path, hsource⟩
  · refine ⟨?_, hpreset⟩
    intro hformat
    rw [hformat, render] at hrender
    cases hrender

/-- A missing file is a failure of the source. -/
theorem line_of_missing {settings : Settings} {path : String} (h : settings.source = .file path) :
    settings.line ⟨fun _ => .error .missing⟩ =
      .error (.source (.unreadable path .missing)) := by
  rw [line, h]
  rfl

/-- In a format that shows what is stored, a pair of readings below zero is refused. -/
theorem line_of_below_zero {format : OutputFormat} (h : format ≠ .decimal) (separator : String)
    (files : Files) :
    ∃ set refusal, (⟨.inline set, separator, format⟩ : Settings).line files =
      .error (.report refusal) := by
  have hpaired : pairingFault? [(-10 : Float)] [-10] = none := by decide
  have htruncate : Binary64.truncate (Calibration.standard.midpoint (-10) (-10)) = -10 := by decide
  have hmids : Calibration.standard.apply ⟨[-10], [-10], hpaired⟩ =
      [Calibration.standard.midpoint (-10) (-10)] := rfl
  refine ⟨⟨[-10], [-10], hpaired⟩, ?_⟩
  cases format with
  | decimal => exact absurd rfl h
  | hex =>
      have hrefused : ¬ Storable (Calibration.standard.midpoint (-10) (-10)) := by
        rw [Storable, htruncate]
        decide
      refine ⟨.thresholdOutOfRange 0 (-10), ?_⟩
      rw [line, Source.load]
      dsimp only
      rw [hmids, render, thresholdsFrom, thresholdOfMidpoint_of_not_storable 0 hrefused, htruncate]
  | console =>
      refine ⟨.pegCountMismatch pegCount 1, ?_⟩
      rw [line, Source.load]
      dsimp only
      rw [hmids, render_console_of_length_ne separator (by decide)]
      rfl

/-- **The outcome of a run**, on every output.  Unless the output itself fails, a failed run has
handed nothing over and left the output as it was.  A run hands over at most one line, and that is
the rendering of the midpoints of the readings that were loaded.  It fails only in ways that its
settings allow; a bench capture in any format, and readings given as they are in decimal, fail only
by the output, and always give a line to a text.  The other failures do occur: of the source for
every file, of the report in every other format. -/
theorem run_outcome (settings : Settings) (files : Files) (output : σ) :
    let ran := settings.run files (⟨[], output⟩ : Recorded σ)
    settings.run files output = (ran.1, ran.2.output) ∧
    (∀ failure, ran.1 = .error failure → (∀ error, failure ≠ .output error) →
      ran.2 = ⟨[], output⟩) ∧
    (ran.2.handed = [] ∨ ∃ readings line, settings.source.load files = .ok readings ∧
      render (Calibration.standard.apply readings) settings.format settings.separator = .ok line ∧
      ran.2.handed = [line]) ∧
    (∀ failure, ran.1 = .error failure → settings.Allows failure) ∧
    ((∃ preset, settings.source = .preset preset) ∨
        ((∃ set, settings.source = .inline set) ∧ settings.format = .decimal) →
      (∀ failure, ran.1 = .error failure → ∃ error, failure = .output error) ∧
        ∃ line, ∀ text : String, settings.run files text = (.ok line, text ++ line ++ "\n")) ∧
    (∀ path, settings.source = .file path →
      ∃ others error, (settings.run others output).1 = .error (.source error)) ∧
    (settings.format ≠ .decimal → ∃ set refusal,
      ((⟨.inline set, settings.separator, settings.format⟩ : Settings).run files output).1 =
        .error (.report refusal)) := by
  intro ran
  have hmissing : ∀ path, settings.source = .file path →
      ∃ others error, (settings.run others output).1 = .error (.source error) := by
    intro path hpath
    exact ⟨_, _, by rw [run_of_line_error (line_of_missing hpath)]⟩
  have hrefused : settings.format ≠ .decimal → ∃ set refusal,
      ((⟨.inline set, settings.separator, settings.format⟩ : Settings).run files output).1 =
        .error (.report refusal) := by
    intro hformat
    obtain ⟨set, refusal, hline⟩ := line_of_below_zero hformat settings.separator files
    exact ⟨set, refusal, by rw [run_of_line_error hline]⟩
  refine ⟨run_recorded settings files output, ?_⟩
  cases hline : settings.line files with
  | error failure =>
      have hran : ran = (.error failure, ⟨[], output⟩) := run_of_line_error hline _
      rw [hran]
      refine ⟨fun _ _ _ => rfl, Or.inl rfl, ?_, ?_, hmissing, hrefused⟩
      · intro other hother
        cases hother
        exact allows_of_line_error hline
      · rintro (⟨preset, hsource⟩ | ⟨⟨set, hsource⟩, hformat⟩)
        · obtain ⟨line, hpreset⟩ := line_of_preset hsource files
          rw [hline] at hpreset
          cases hpreset
        · obtain ⟨line, hinline⟩ := line_of_inline_decimal hsource hformat files
          rw [hline] at hinline
          cases hinline
  | ok line =>
      obtain ⟨readings, hload, hrender⟩ := line_eq_ok_iff.1 hline
      have hran : ran = _ := run_recorded_of_line hline output
      rw [hran]
      have honly := output_of_answerTo line (LineOutput.emit line output).1
      refine ⟨?_, Or.inr ⟨readings, line, hload, hrender, rfl⟩, ?_, fun _ => ⟨honly, line, ?_⟩,
        hmissing, hrefused⟩
      · intro failure hfailure hother
        obtain ⟨error, rfl⟩ := honly failure hfailure
        exact absurd rfl (hother error)
      · intro failure hfailure
        obtain ⟨error, rfl⟩ := honly failure hfailure
        trivial
      · intro text
        rw [run_of_line hline]
        rfl

end Settings

end PegBox
