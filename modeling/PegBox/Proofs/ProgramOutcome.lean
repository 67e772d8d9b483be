/-
**What a call of the program leaves behind.**

A call whose arguments are followed goes through five stages: the configuration file is read, and
what it holds is made out; the captures on the command line are paired; the source is loaded; the
midpoints are put into a line.  Each stage can be at fault on its own, and several can be at once.
The first one that is decides the outcome: its failure is reported, nothing is written to standard
output, and the status is one.  If none is, the line and its newline are all that is written.

What the command line refuses by itself is not refused again: arguments that are followed never
contradict themselves when the settings are resolved.

Main definitions:

* `PegBox.Program.Stage` — the stages of a call, in their order;
* `PegBox.Program.FailsAt`, `PegBox.Program.Passes` — **what makes a stage fail**, and that nothing
  does;
* `PegBox.Program.FirstFailure` — the failure of the first stage that fails.

Main results:

* `PegBox.Program.failsAt_pairing_iff` — only captures that do not pair up keep the settings of
  arguments that are followed from being resolved;
* `PegBox.Program.FirstFailure.unique` — there is at most one first failure;
* `PegBox.Program.execute_cases` — a call has a first failure, or none and a line;
* `PegBox.Program.outcome_of_accepted` — **the outcome of arguments that are followed**.
-/

import PegBox.Program
import PegBox.Proofs.RunOutcome
import PegBox.Proofs.SettingsLayers

set_option autoImplicit false

namespace PegBox.Program

open CommandLine

/-! ### Stages -/

/-- The stages of a call at which it can fail. -/
inductive Stage where
  | configRead
  | configParse
  | pairing
  | source
  | report
  deriving DecidableEq

namespace Stage

/-- The stages in their order. -/
def all : List Stage := [.configRead, .configParse, .pairing, .source, .report]

/-- The stages that go before a stage. -/
def before (stage : Stage) : List Stage := all.takeWhile (· ≠ stage)

/-- The code of the failures of a stage. -/
def code : Stage → String
  | .configRead => "E040"
  | .configParse => "E041"
  | .pairing => "E001"
  | .source => "E010"
  | .report => "E020"

/-- Of two stages one goes before the other. -/
theorem eq_or_mem_before (first second : Stage) :
    first = second ∨ first ∈ second.before ∨ second ∈ first.before := by
  cases first <;> cases second <;> decide

end Stage

/-- **What makes a stage fail.**  The first four can be judged whatever becomes of the others: a
configuration has no part in the captures, nor in the source where that can fail.  A report takes
the settings and their readings. -/
inductive FailsAt (files : Files) (arguments : Arguments) : Stage → Failure → Prop where
  | configRead {path : String} {fault : ReadFault} (hpath : arguments.config = some path)
      (hread : files.readText path = .error fault) :
      FailsAt files arguments .configRead (.configRead path fault)
  | configParse {path text : String} {fault : DocumentFault}
      (hpath : arguments.config = some path) (hread : files.readText path = .ok text)
      (hparse : readDocument (Config.ofDatum .toml) text = .error fault) :
      FailsAt files arguments .configParse (.configParse path fault)
  | pairing {highs lows : List Float} {fault : InputFault}
      (hhighs : arguments.overrides.highs = some highs)
      (hlows : arguments.overrides.lows = some lows) (hfault : HasFault highs lows fault) :
      FailsAt files arguments .pairing (.calibration fault)
  | source {path : String} {error : SourceError}
      (hpath : arguments.overrides.readings = some path)
      (hload : loadReadingsFile files path = .error error) :
      FailsAt files arguments .source (.source error)
  | report {settings : Settings} {readings : ReadingSet} {refusal : ReportError}
      (hsettings : settingsOf files arguments = .ok settings)
      (hload : settings.source.load files = .ok readings)
      (hrender : render (Calibration.standard.apply readings) settings.format
        settings.separator = .error refusal) :
      FailsAt files arguments .report (.report refusal)

/-- A stage at which nothing fails. -/
def Passes (files : Files) (arguments : Arguments) (stage : Stage) : Prop :=
  ∀ failure, ¬ FailsAt files arguments stage failure

/-- The failure of the first stage that fails. -/
structure FirstFailure (files : Files) (arguments : Arguments) (stage : Stage)
    (failure : Failure) : Prop where
  fails : FailsAt files arguments stage failure
  first : ∀ earlier ∈ stage.before, Passes files arguments earlier

variable {files : Files} {arguments : Arguments}

theorem FailsAt.code {stage : Stage} {failure : Failure}
    (h : FailsAt files arguments stage failure) : failure.code = stage.code := by
  cases h <;> rfl

/-- A stage has one failure. -/
theorem FailsAt.unique {stage : Stage} {failure other : Failure}
    (h : FailsAt files arguments stage failure) (hother : FailsAt files arguments stage other) :
    failure = other := by
  cases h with
  | configRead hpath hread =>
      obtain ⟨hpath', hread'⟩ := hother
      simp_all
  | configParse hpath hread hparse =>
      obtain _ | ⟨hpath', hread', hparse'⟩ := hother
      simp_all
  | pairing hhighs hlows hfault =>
      obtain _ | _ | ⟨hhighs', hlows', hfault'⟩ := hother
      simp_all [← pairingFault?_eq_some_iff]
  | source hpath hload =>
      obtain _ | _ | _ | ⟨hpath', hload'⟩ := hother
      simp_all
  | report hsettings hload hrender =>
      obtain _ | _ | _ | _ | ⟨hsettings', hload', hrender'⟩ := hother
      simp_all

/-- There is at most one first failure. -/
theorem FirstFailure.unique {stage other : Stage} {failure reason : Failure}
    (h : FirstFailure files arguments stage failure)
    (hother : FirstFailure files arguments other reason) : stage = other ∧ failure = reason := by
  obtain rfl | hbefore | hbefore := stage.eq_or_mem_before other
  · exact ⟨rfl, h.fails.unique hother.fails⟩
  · exact absurd h.fails (hother.first _ hbefore _)
  · exact absurd hother.fails (h.first _ hbefore _)

/-! ### Arguments that are followed -/

/-- Arguments that are followed do not contradict themselves. -/
theorem not_contradictory_of_parse {line : List String} (h : parse line = .ok arguments) :
    arguments.contradictory = false := by
  rw [parse] at h
  cases hsteps : Scan.start.steps line with
  | error stop =>
      rw [hsteps] at h
      cases h
  | ok scan =>
      rw [hsteps] at h
      dsimp only at h
      cases hsettle : scan.settle with
      | error stop =>
          rw [hsettle] at h
          cases h
      | ok settled =>
          rw [hsettle] at h
          dsimp only at h
          split at h
          · cases h
          · next hfree =>
            cases h
            exact Bool.eq_false_iff.2 hfree

/-- Only captures that do not pair up keep the settings of arguments that are followed from being
resolved. -/
theorem failsAt_pairing_iff (files : Files) (h : arguments.contradictory = false)
    {failure : Failure} :
    FailsAt files arguments .pairing failure ↔ arguments.overrides.Refused failure := by
  rw [Arguments.contradictory] at h
  constructor
  · intro hfails
    cases hfails with
    | pairing hhighs hlows hfault => exact .fault hhighs hlows hfault
  · intro hrefused
    cases hrefused with
    | fault hhighs hlows hfault => exact .pairing hhighs hlows hfault
    | halfReadings hhalf => simp [hhalf] at h
    | readingsAndFile hhighs hlows hpairs hpath => simp [hhighs, hlows, hpath] at h

/-! ### Stage by stage -/

/-- The configuration is loaded, or one of its stages fails first. -/
theorem loadConfig_cases (files : Files) (arguments : Arguments) :
    (∃ config, loadConfig files arguments.config = .ok config ∧
        Passes files arguments .configRead ∧ Passes files arguments .configParse) ∨
      ∃ stage failure, FirstFailure files arguments stage failure ∧
        loadConfig files arguments.config = .error failure := by
  cases hpath : arguments.config with
  | none =>
      refine .inl ⟨none, rfl, ?_, ?_⟩
      · intro failure hfails
        cases hfails with
        | configRead hnamed _ => simp [hpath] at hnamed
      · intro failure hfails
        cases hfails with
        | configParse hnamed _ _ => simp [hpath] at hnamed
  | some path =>
      cases hread : files.readText path with
      | error fault =>
          refine .inr ⟨.configRead, .configRead path fault, ⟨.configRead hpath hread, ?_⟩, ?_⟩
          · intro earlier hearlier
            cases hearlier
          · rw [loadConfig, Config.load, hread]
      | ok text =>
          have hreads : Passes files arguments .configRead := by
            intro failure hfails
            cases hfails with
            | configRead hnamed hfault => simp_all
          cases hparse : readDocument (Config.ofDatum .toml) text with
          | error fault =>
              refine .inr ⟨.configParse, .configParse path fault,
                ⟨.configParse hpath hread hparse, List.forall_mem_singleton.2 hreads⟩, ?_⟩
              rw [loadConfig, Config.load, hread]
              dsimp only
              rw [hparse]
          | ok config =>
              refine .inl ⟨some config, ?_, hreads, ?_⟩
              · rw [loadConfig, Config.load, hread]
                dsimp only
                rw [hparse]
              · intro failure hfails
                cases hfails with
                | configParse hnamed htext hfault => simp_all

/-- The settings are resolved, or the captures do not pair up. -/
theorem settingsOf_cases (files : Files) (h : arguments.contradictory = false) :
    (∃ settings, settingsOf files arguments = .ok settings ∧
        ∀ earlier ∈ Stage.source.before, Passes files arguments earlier) ∨
      ∃ stage failure, FirstFailure files arguments stage failure ∧
        settingsOf files arguments = .error failure := by
  obtain ⟨config, hconfig, hreads, hparses⟩ | ⟨stage, failure, hfirst, hconfig⟩ :=
    loadConfig_cases files arguments
  · rw [settingsOf, hconfig]
    dsimp only
    cases hresolve : Settings.resolve arguments.overrides config with
    | error failure =>
        have hrefused := Settings.resolve_eq_error_iff.1 hresolve
        refine .inr ⟨.pairing, failure, ⟨(failsAt_pairing_iff files h).2 hrefused, ?_⟩, rfl⟩
        exact List.forall_mem_cons.2 ⟨hreads, List.forall_mem_singleton.2 hparses⟩
    | ok settings =>
        have hpairs : Passes files arguments .pairing := by
          intro failure hfails
          rw [failsAt_pairing_iff files h, ← Settings.resolve_eq_error_iff,
            hresolve] at hfails
          cases hfails
        refine .inl ⟨settings, rfl, ?_⟩
        exact List.forall_mem_cons.2
          ⟨hreads, List.forall_mem_cons.2 ⟨hparses, List.forall_mem_singleton.2 hpairs⟩⟩
  · exact .inr ⟨stage, failure, hfirst, by rw [settingsOf, hconfig]⟩

/-- The source of settings is the one that the overrides name. -/
theorem names_of_settingsOf {settings : Settings} (h : settingsOf files arguments = .ok settings) :
    arguments.overrides.Consistent ∧
      ∃ capture, arguments.overrides.Names capture settings.source := by
  rw [settingsOf] at h
  cases hconfig : loadConfig files arguments.config with
  | error failure =>
      rw [hconfig] at h
      cases h
  | ok config =>
      rw [hconfig] at h
      obtain ⟨hconsistent, capture, hlayered⟩ := Settings.resolve_eq_ok_iff.1 h
      exact ⟨hconsistent, capture, hlayered.source_named⟩

/-- The source of settings fails exactly where the file does that the overrides name. -/
theorem failsAt_source_iff {settings : Settings} (h : settingsOf files arguments = .ok settings)
    {failure : Failure} :
    FailsAt files arguments .source failure ↔
      ∃ error, settings.source.load files = .error error ∧ failure = .source error := by
  obtain ⟨hconsistent, capture, hnames⟩ := names_of_settingsOf h
  generalize settings.source = source at hnames
  constructor
  · intro hfails
    cases hfails with
    | source hpath hload =>
        cases hnames with
        | inline set hhighs _ =>
            rw [hconsistent.readings_eq_none hhighs] at hpath
            cases hpath
        | file _ hnamed =>
            rw [hpath] at hnamed
            cases hnamed
            exact ⟨_, hload, rfl⟩
        | preset _ hnone =>
            rw [hpath] at hnone
            cases hnone
  · rintro ⟨error, hload, rfl⟩
    cases hnames with
    | inline set _ _ => cases hload
    | file _ hnamed => exact .source hnamed hload
    | preset _ _ =>
        obtain ⟨readings, hbench, -⟩ := Settings.load_preset capture files
        rw [hbench] at hload
        cases hload

/-- A line is found, or the source or the report fails first. -/
theorem line_cases {settings : Settings} (h : settingsOf files arguments = .ok settings)
    (hearlier : ∀ earlier ∈ Stage.source.before, Passes files arguments earlier) :
    (∃ line, settings.line files = .ok line ∧ ∀ stage, Passes files arguments stage) ∨
      ∃ stage failure, FirstFailure files arguments stage failure ∧
        settings.line files = .error failure := by
  have hloads {readings : ReadingSet} (hload : settings.source.load files = .ok readings) :
      Passes files arguments .source := by
    intro failure hfails
    obtain ⟨error, herror, -⟩ := (failsAt_source_iff h).1 hfails
    rw [hload] at herror
    cases herror
  cases hline : settings.line files with
  | error failure =>
      obtain ⟨error, hload, rfl⟩ | ⟨readings, refusal, hload, hrender, rfl⟩ :=
        Settings.line_error_cases hline
      · have hfails := (failsAt_source_iff h).2 ⟨error, hload, rfl⟩
        exact .inr ⟨.source, _, ⟨hfails, hearlier⟩, rfl⟩
      · refine .inr ⟨.report, _, ⟨.report h hload hrender, ?_⟩, rfl⟩
        rw [show Stage.report.before = Stage.source.before ++ [.source] by decide,
          List.forall_mem_append]
        exact ⟨hearlier, List.forall_mem_singleton.2 (hloads hload)⟩
  | ok line =>
      obtain ⟨readings, hload, hrender⟩ := Settings.line_eq_ok_iff.1 hline
      refine .inl ⟨line, rfl, ?_⟩
      intro stage
      cases stage with
      | configRead => exact hearlier _ (by decide)
      | configParse => exact hearlier _ (by decide)
      | pairing => exact hearlier _ (by decide)
      | source => exact hloads hload
      | report =>
          intro failure hfails
          cases hfails with
          | report hsettings hreadings hrefusal => simp_all

/-- **A call has a first failure, or none and a line.** -/
theorem execute_cases (files : Files) (h : arguments.contradictory = false) :
    (∃ stage failure, FirstFailure files arguments stage failure ∧
        execute files arguments = (.error failure, "")) ∨
      ((∀ stage, Passes files arguments stage) ∧
        ∃ settings line, settingsOf files arguments = .ok settings ∧
          settings.line files = .ok line ∧ execute files arguments = (.ok line, line ++ "\n")) := by
  obtain ⟨settings, hsettings, hearlier⟩ | ⟨stage, failure, hfirst, hsettings⟩ :=
    settingsOf_cases files h
  · obtain ⟨line, hline, hpasses⟩ | ⟨stage, failure, hfirst, hline⟩ :=
      line_cases hsettings hearlier
    · have hemit : LineOutput.emit line "" = (Except.ok (), line ++ "\n") := by
        change (Except.ok (), "" ++ line ++ "\n") = _
        rw [String.empty_append]
      refine .inr ⟨hpasses, settings, line, hsettings, hline, ?_⟩
      rw [execute, hsettings]
      dsimp only
      rw [Settings.run_of_line hline, hemit]
      rfl
    · refine .inl ⟨stage, failure, hfirst, ?_⟩
      rw [execute, hsettings]
      exact Settings.run_of_line_error hline ""
  · exact .inl ⟨stage, failure, hfirst, by rw [execute, hsettings]⟩

/-! ### The outcome -/

/-- **The outcome of arguments that are followed.**  If a stage fails, the first one that does
decides: its failure is reported under the code of the stage, nothing is written to standard output,
and the status is one.  If no stage fails, the rendering of the midpoints of the readings and a
newline are written, and nothing else, and the status is zero.  One of the two is the case.  The
settings are never refused for a contradiction, whatever the configuration.  All this holds whatever
words the reader of TOML has for a text that is no document. -/
theorem outcome_of_accepted (files : Files) (syntaxWords : String → String) {line : List String}
    {arguments : Arguments} (h : parse line = .ok arguments) :
    (∀ stage failure, FirstFailure files arguments stage failure →
      failure.code = stage.code ∧
        outcome files line syntaxWords =
          ⟨1, "", some ("Error: " ++ failure.message syntaxWords ++ "\n")⟩) ∧
    ((∀ stage, Passes files arguments stage) →
      ∃ settings readings result, settingsOf files arguments = .ok settings ∧
        settings.source.load files = .ok readings ∧
        render (Calibration.standard.apply readings) settings.format settings.separator =
          .ok result ∧
        outcome files line syntaxWords = ⟨0, result ++ "\n", none⟩) ∧
    ((∃ stage failure, FirstFailure files arguments stage failure) ∨
      ∀ stage, Passes files arguments stage) ∧
    ∀ config fault, Settings.resolve arguments.overrides config ≠ .error (.usage fault) := by
  have haccepted := not_contradictory_of_parse h
  have hcontradiction : ∀ config fault,
      Settings.resolve arguments.overrides config ≠ .error (.usage fault) := by
    intro config fault husage
    have hrefused := Settings.resolve_eq_error_iff.1 husage
    cases (failsAt_pairing_iff files haccepted).2 hrefused
  obtain ⟨stage, failure, hfirst, hexecute⟩ | ⟨hpasses, settings, result, hsettings, hline,
    hexecute⟩ := execute_cases files haccepted
  · refine ⟨?_, ?_, .inl ⟨stage, failure, hfirst⟩, hcontradiction⟩
    · intro other reason hother
      obtain ⟨rfl, rfl⟩ := hfirst.unique hother
      refine ⟨hfirst.fails.code, ?_⟩
      rw [outcome, h]
      dsimp only
      rw [hexecute]
    · intro hpasses
      exact absurd hfirst.fails (hpasses stage failure)
  · refine ⟨?_, ?_, .inr hpasses, hcontradiction⟩
    · intro stage failure hfirst
      exact absurd hfirst.fails (hpasses stage failure)
    · intro _
      obtain ⟨readings, hload, hrender⟩ := Settings.line_eq_ok_iff.1 hline
      refine ⟨settings, readings, result, hsettings, hload, hrender, ?_⟩
      rw [outcome, h]
      dsimp only
      rw [hexecute]

/-- A key that no configuration has, and captures that do not pair up: the file is at fault
first. -/
theorem outcome_of_accepted_unknown_key :
    let files : Files := ⟨fun _ => .ok "colour = 1\n"⟩
    let line := ["--config", "box.toml", "--highs", "833,712", "--lows=40"]
    let arguments : Arguments :=
      ⟨⟨none, some [833, 712], some [40], none, none, none⟩, some "box.toml"⟩
    parse line = .ok arguments ∧
      FailsAt files arguments .pairing (.calibration (.lengthMismatch 2 1)) ∧
      outcome files line = ⟨1, "",
        some ("Error: Invalid configuration in box.toml: unknown field `colour`, "
          ++ "expected one of `preset`, `separator`, `format`\n")⟩ := by
  intro files line arguments
  have hparse : parse line = .ok arguments := by
    have hanswer : (parse line).toOption = some arguments := by decide +kernel
    cases hline : parse line with
    | error stop =>
        rw [hline] at hanswer
        cases hanswer
    | ok followed =>
        rw [hline] at hanswer
        rw [Option.some.inj hanswer]
  have hdocument : readDocument (Config.ofDatum .toml) "colour = 1\n" =
      .error (.misshapen (.unknownField "colour" ["preset", "separator", "format"])) := by cbv
  have hreads : Passes files arguments .configRead := by
    intro failure hfails
    cases hfails with
    | configRead _ hread => cases hread
  have hfirst : FirstFailure files arguments .configParse _ :=
    ⟨.configParse rfl rfl hdocument, List.forall_mem_singleton.2 hreads⟩
  have hfault : HasFault [(833 : Float), 712] [40] (.lengthMismatch 2 1) :=
    .lengthMismatch (List.cons_ne_nil _ _) (List.cons_ne_nil _ _) (by decide)
  obtain ⟨hdecides, -⟩ := outcome_of_accepted files Toml.unworded hparse
  refine ⟨hparse, .pairing rfl rfl hfault, ?_⟩
  rw [(hdecides _ _ hfirst).2]
  decide +kernel

end PegBox.Program
