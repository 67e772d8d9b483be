/-
**A calibration run.**

A run loads its readings, computes the midpoints with the weights of the box, writes them as one
line and hands the line to an output.  Nothing reaches the output before the line is complete.

Main definitions:

* `PegBox.Settings.line` — the line of a run, or why there is none;
* `PegBox.Settings.run` — **a run**: its line and the output after it.

Main results:

* `PegBox.Settings.line_eq_ok_iff`, `PegBox.Settings.line_error_cases` — where the line of a run
  comes from, and what is to blame if there is none;
* `PegBox.Settings.run_of_line`, `PegBox.Settings.run_of_line_error` — with a line the output gives
  the answer; without one the output is left alone;
* `PegBox.Settings.line_of_run` — a run that succeeds has handed its line over.
-/

import PegBox.Calibration
import PegBox.Line
import PegBox.Settings

set_option autoImplicit false

namespace PegBox.Settings

/-- The line of a run. -/
def line (settings : Settings) (files : Files) : Except Failure String :=
  match settings.source.load files with
  | .error error => .error (.source error)
  | .ok readings =>
    match render (Calibration.standard.apply readings) settings.format settings.separator with
    | .error refusal => .error (.report refusal)
    | .ok line => .ok line

/-- **A run**: the line that was handed to the output, or the failure, and the output after it. -/
def run {σ : Type} [LineOutput σ] (settings : Settings) (files : Files) (output : σ) :
    Except Failure String × σ :=
  match settings.line files with
  | .error failure => (.error failure, output)
  | .ok line =>
    match LineOutput.emit line output with
    | (.error error, after) => (.error (.output error), after)
    | (.ok (), after) => (.ok line, after)

/-- The line is the rendering of the midpoints of the readings that were loaded. -/
theorem line_eq_ok_iff {settings : Settings} {files : Files} {line : String} :
    settings.line files = .ok line ↔
      ∃ readings, settings.source.load files = .ok readings ∧
        render (Calibration.standard.apply readings) settings.format settings.separator =
          .ok line := by
  rw [Settings.line]
  cases settings.source.load files with
  | error error => simp
  | ok readings =>
    dsimp only
    cases hrender : render (Calibration.standard.apply readings) settings.format
      settings.separator <;> simp [hrender]

/-- Without a line, the source or the report is to blame. -/
theorem line_error_cases {settings : Settings} {files : Files} {failure : Failure}
    (h : settings.line files = .error failure) :
    (∃ error, settings.source.load files = .error error ∧ failure = .source error) ∨
      ∃ readings refusal, settings.source.load files = .ok readings ∧
        render (Calibration.standard.apply readings) settings.format settings.separator =
          .error refusal ∧ failure = .report refusal := by
  rw [Settings.line] at h
  cases hload : settings.source.load files with
  | error error =>
    rw [hload] at h
    exact .inl ⟨error, rfl, (Except.error.inj h).symm⟩
  | ok readings =>
    rw [hload] at h
    dsimp only at h
    cases hrender : render (Calibration.standard.apply readings) settings.format
        settings.separator with
    | error refusal =>
      rw [hrender] at h
      exact .inr ⟨readings, refusal, rfl, hrender, (Except.error.inj h).symm⟩
    | ok line =>
      rw [hrender] at h
      cases h

/-- The answer of a run whose line got this answer from the output. -/
def answerTo (line : String) : Except OutputError Unit → Except Failure String
  | .error error => .error (.output error)
  | .ok () => .ok line

/-- With a line, the output gives the answer. -/
theorem run_of_line {σ : Type} [LineOutput σ] {settings : Settings} {files : Files} {line : String}
    (h : settings.line files = .ok line) (output : σ) :
    settings.run files output =
      (answerTo line (LineOutput.emit line output).1, (LineOutput.emit line output).2) := by
  rw [run, h]
  dsimp only
  rcases LineOutput.emit line output with ⟨_ | _, after⟩ <;> rfl

/-- Without a line the output is left alone. -/
theorem run_of_line_error {σ : Type} [LineOutput σ] {settings : Settings} {files : Files}
    {failure : Failure} (h : settings.line files = .error failure) (output : σ) :
    settings.run files output = (.error failure, output) := by
  simp [run, h]

/-- A run that succeeds has a line, and the output has taken it. -/
theorem line_of_run {σ : Type} [LineOutput σ] {settings : Settings} {files : Files} {line : String}
    {output after : σ} (h : settings.run files output = (.ok line, after)) :
    settings.line files = .ok line ∧ LineOutput.emit line output = (.ok (), after) := by
  cases hline : settings.line files with
  | error failure =>
    rw [run_of_line_error hline] at h
    cases h
  | ok only =>
    rw [run_of_line hline] at h
    rcases hemit : LineOutput.emit only output with ⟨_ | _, taken⟩
    · rw [hemit] at h
      cases h
    · rw [hemit] at h
      cases h
      exact ⟨rfl, hemit⟩

end PegBox.Settings
