/-
**Captures on the command line and captures in a file come to the same.**

Two captures can be given as they are or in a file.  Given as they are, they are judged when the
settings are resolved; in a file they are judged when it is loaded, which is part of the run.  From
there on the two ways are one, as a run depends on its source only through what the source loads.
This module follows both ways from the same overrides to the output: they give the same line, or the
same refusal of the report, or the same fault of the captures, each in the wrapping of its stage.

Main definitions:

* `PegBox.Overrides.withCaptures`, `PegBox.Overrides.withFile` — overrides with two captures, and
  with a file in their place;
* `PegBox.Settings.ofSource` — the settings of a source under overrides and a configuration.

Main results:

* `PegBox.Settings.run_congr` — a run depends on its source only through what that loads;
* `PegBox.load_file_of_holdsCaptures` — a file that holds two captures loads what they form;
* `PegBox.inline_and_file_agree` — **both ways come to the same**.
-/

import Mathlib
import PegBox.Proofs.InputVerdict
import PegBox.Run

set_option autoImplicit false

namespace PegBox

/-! ### The two ways to give captures -/

/-- Overrides with both captures given as they are, and no file. -/
def Overrides.withCaptures (given : Overrides) (highs lows : List Float) : Overrides :=
  { given with highs := some highs, lows := some lows, readings := none }

/-- Overrides with a readings file, and no captures. -/
def Overrides.withFile (given : Overrides) (path : String) : Overrides :=
  { given with highs := none, lows := none, readings := some path }

namespace Settings

/-- The settings of a source: the separator and the format are those of the overrides, or else of
the configuration, or else of the bench capture and the standard. -/
def ofSource (given : Overrides) (config : Option Config) (source : Source) : Settings :=
  let config := config.getD .empty
  let preset := (given.preset.or config.preset).getD .standard
  ⟨source, (given.separator.or config.separator).getD preset.separator,
    (given.format.or config.format).getD .standard⟩

theorem resolve_withFile (given : Overrides) (config : Option Config) (path : String) :
    resolve (given.withFile path) config = .ok (ofSource given config (.file path)) := rfl

/-- Captures that are given as they are are judged when the settings are resolved. -/
theorem resolve_withCaptures (given : Overrides) (config : Option Config)
    (highs lows : List Float) :
    resolve (given.withCaptures highs lows) config =
      match ReadingSet.ofLists highs lows with
      | .error fault => .error (.calibration fault)
      | .ok set => .ok (ofSource given config (.inline set)) := by
  rw [resolve, inlineReadings]
  dsimp only [Overrides.withCaptures]
  cases ReadingSet.ofLists highs lows <;> rfl

/-- A run depends on its source only through what that loads. -/
theorem run_congr {σ : Type} [LineOutput σ] {first second : Settings} {files : Files}
    (hload : first.source.load files = second.source.load files)
    (hseparator : first.separator = second.separator) (hformat : first.format = second.format)
    (output : σ) : first.run files output = second.run files output := by
  rw [run, run, line, line, hload, hseparator, hformat]

/-- On an output that takes the line, a run with a line succeeds. -/
theorem run_of_taken {σ : Type} [LineOutput σ] {settings : Settings} {files : Files}
    {line : String} {output : σ} (h : settings.line files = .ok line)
    (htaken : (LineOutput.emit line output).1 = .ok ()) :
    settings.run files output = (.ok line, (LineOutput.emit line output).2) := by
  rw [run_of_line h, htaken]
  rfl

end Settings

/-! ### A file of captures -/

/-- A file that holds two captures loads the reading set that they form, or is refused with their
fault. -/
theorem load_file_of_holdsCaptures {files : Files} {path text : String} {document : Datum}
    {highs lows : List Float} (hread : files.readText path = .ok text)
    (hparse : Toml.parse text = some document) (hholds : HoldsCaptures highs lows document) :
    (Source.file path).load files = (ReadingSet.ofLists highs lows).mapError .invalid := by
  have hdocument : readDocument (ReadingSet.capturesOf ReadingSet.strictRecord) text =
      .ok (highs, lows) := by
    rw [readDocument, hparse]
    dsimp only
    rw [hholds.capturesOf rfl]
  rw [Source.load, loadReadingsFile, hread]
  dsimp only
  rw [hdocument]
  dsimp only
  cases ReadingSet.ofLists highs lows <;> rfl

/-! ### The agreement -/

/-- **Both ways come to the same.**  Take overrides and a configuration, two captures, and a file
whose document holds these captures and nothing else; take an output that accepts every line.  The
settings with the file always resolve.  If the captures pair up, the settings with the captures
resolve too, and the two runs give the same line and leave the same output, or they are refused with
the same words of the report and leave the output as it was.  If the captures have a fault, it is
named by both: before the run where they are given as they are, and by the source where they are in
a file; both failures lay it to the input, and the output stays as it was. -/
theorem inline_and_file_agree {σ : Type} [LineOutput σ] (given : Overrides)
    (config : Option Config) (highs lows : List Float) (files : Files) (path text : String)
    (document : Datum) (output : σ) (hread : files.readText path = .ok text)
    (hparse : Toml.parse text = some document) (hholds : HoldsCaptures highs lows document)
    (haccepts : ∀ line, (LineOutput.emit line output).1 = .ok ()) :
    ∃ fromFile, Settings.resolve (given.withFile path) config = .ok fromFile ∧
      ((PairsUp highs lows ∧ ∃ inline,
          Settings.resolve (given.withCaptures highs lows) config = .ok inline ∧
          ((∃ line, inline.run files output = (.ok line, (LineOutput.emit line output).2) ∧
              fromFile.run files output = (.ok line, (LineOutput.emit line output).2)) ∨
            ∃ refusal, inline.run files output = (.error (.report refusal), output) ∧
              fromFile.run files output = (.error (.report refusal), output))) ∨
        ∃ fault, HasFault highs lows fault ∧
          Settings.resolve (given.withCaptures highs lows) config = .error (.calibration fault) ∧
          fromFile.run files output = (.error (.source (.invalid fault)), output) ∧
          (Failure.calibration fault).isInvalidInput = true ∧
          (Failure.source (.invalid fault)).isInvalidInput = true) := by
  have hverdict := followsVerdict_ofLists highs lows
  have hload := load_file_of_holdsCaptures hread hparse hholds
  have hresolve := Settings.resolve_withCaptures given config highs lows
  refine ⟨_, Settings.resolve_withFile given config path, ?_⟩
  cases hlists : ReadingSet.ofLists highs lows with
  | error fault =>
      obtain ⟨_, hfault, rfl⟩ := (hverdict.refuses_iff fault).1 hlists
      rw [hlists] at hload hresolve
      have hline : (Settings.ofSource given config (.file path)).line files =
          .error (.source (.invalid fault)) := by
        rw [Settings.line, show (Settings.ofSource given config (.file path)).source.load files =
          .error (.invalid fault) from hload]
      exact Or.inr ⟨_, hfault, hresolve, Settings.run_of_line_error hline output, rfl, rfl⟩
  | ok set =>
      rw [hlists] at hload hresolve
      have hpairs := hverdict.accepts_iff.1 ⟨set, hlists⟩
      -- both sources load the same reading set
      have hsame : (Settings.ofSource given config (.file path)).run files output =
          (Settings.ofSource given config (.inline set)).run files output := by
        refine Settings.run_congr ?_ ?_ ?_ output
        · exact hload
        · rfl
        · rfl
      refine Or.inl ⟨hpairs, _, hresolve, ?_⟩
      rw [hsame]
      cases hline : (Settings.ofSource given config (.inline set)).line files with
      | ok line =>
          have hrun := Settings.run_of_taken hline (haccepts line)
          exact Or.inl ⟨line, hrun, hrun⟩
      | error failure =>
          obtain ⟨error, hinline, -⟩ | ⟨_, refusal, -, -, rfl⟩ := Settings.line_error_cases hline
          · -- readings that are given as they are always load
            cases hinline
          · have hrun := Settings.run_of_line_error hline output
            exact Or.inr ⟨refusal, hrun, hrun⟩

/-- Two pegs in hexadecimal, from the command line and from a file that names the covered readings
first. -/
theorem inline_and_file_agree_two_pegs :
    let text := "lows = [40, 33]\nhighs = [833, 712]\n"
    let document := Datum.mapping [("lows", .sequence [.integer 40, .integer 33]),
      ("highs", .sequence [.integer 833, .integer 712])]
    let files : Files := ⟨fun _ => .ok text⟩
    let given : Overrides := ⟨none, none, none, none, none, some .hex⟩
    Toml.parse text = some document ∧ HoldsCaptures [833, 712] [40, 33] document ∧
      ∃ fromFile inline,
        Settings.resolve (given.withFile "capture.toml") none = .ok fromFile ∧
        Settings.resolve (given.withCaptures [833, 712] [40, 33]) none = .ok inline ∧
        inline.run files "" = (.ok "c6 00,a8 00", "c6 00,a8 00\n") ∧
        fromFile.run files "" = (.ok "c6 00,a8 00", "c6 00,a8 00\n") := by
  intro text document files given
  have hparse : Toml.parse text = some document := by cbv
  have hholds : HoldsCaptures [833, 712] [40, 33] document := by
    have hhighs : (Datum.sequence [.integer 833, .integer 712]).Holds [833, 712] :=
      ⟨_, rfl, .cons (.integer 833) (.cons (.integer 712) .nil)⟩
    have hlows : (Datum.sequence [.integer 40, .integer 33]).Holds [40, 33] :=
      ⟨_, rfl, .cons (.integer 40) (.cons (.integer 33) .nil)⟩
    exact .lowsFirst hhighs hlows
  have hpaired : pairingFault? [833, 712] [40, 33] = none := by decide
  have hresolve := Settings.resolve_withCaptures given none [833, 712] [40, 33]
  rw [ReadingSet.ofLists_of_paired hpaired] at hresolve
  have hanswer : ∀ hpaired : pairingFault? [833, 712] [40, 33] = none,
      ((Settings.ofSource given none (.inline ⟨_, _, hpaired⟩)).run files "").1.toOption =
        some "c6 00,a8 00" := by decide +kernel
  replace hanswer := hanswer hpaired
  obtain ⟨fromFile, hfromFile, hagree⟩ :=
    inline_and_file_agree given none [833, 712] [40, 33] files "capture.toml" text document ""
      rfl hparse hholds (fun _ => rfl)
  refine ⟨hparse, hholds, fromFile, _, hfromFile, hresolve, ?_⟩
  obtain ⟨-, inline, hinline, ⟨line, hrun, hsame⟩ | ⟨refusal, hrun, -⟩⟩ | ⟨fault, hfault, -⟩ :=
    hagree
  · rw [hresolve] at hinline
    cases hinline
    rw [hrun] at hanswer
    cases hanswer
    exact ⟨hrun, hsame⟩
  · rw [hresolve] at hinline
    cases hinline
    rw [hrun] at hanswer
    cases hanswer
  · rw [← pairingFault?_eq_some_iff, hpaired] at hfault
    cases hfault

end PegBox
