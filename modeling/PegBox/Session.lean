/-
**A session at the bench.**

An operator works step by step: chooses weights, takes readings, computes midpoints, renders them,
stores thresholds and reads them back, edits files, and runs the program into one sink.  A session
keeps what the steps leave behind.  A step that fails leaves it alone, but for the bytes that a run
or a line has already put into the sink.

Main definitions:

* `PegBox.Session` — what the steps leave behind;
* `PegBox.Session.Step` — a step;
* `PegBox.Session.Reply`, `PegBox.Session.Fault` — what a step answers;
* `PegBox.Session.step` — **one step**;
* `PegBox.Session.steps` — steps one after the other.
-/

import PegBox.Run

set_option autoImplicit false

namespace PegBox

/-- What the steps of a session leave behind. -/
structure Session where
  calibration : Calibration
  readings : Option ReadingSet
  mids : List Float
  thresholds : Option Thresholds
  config : Option Config
  overrides : Overrides
  tree : FileTree
  sink : Sink

namespace Session

/-- The start of a session, with files and a sink. -/
def start (tree : FileTree) (sink : Sink) : Session :=
  ⟨.standard, none, [], none, none, .empty, tree, sink⟩

/-- A step of a session. -/
inductive Step where
  /-- Choose weights; without weights nothing is chosen. -/
  | weigh (calibration : Option Calibration)
  | takeReadings (highs lows : List Float)
  | takeCounts (highs lows : List UInt16)
  | load (source : Source)
  | midpoints
  | render (format : OutputFormat) (separator : String)
  | store
  | decode (payload : List UInt8)
  | display
  /-- Compute midpoints once more, between the uncovered readings and the thresholds. -/
  | recalibrate
  | put (path : String) (node : Node)
  | remove (path : String)
  | configure (path : String)
  | clearConfig
  | override (overrides : Overrides)
  | resolve
  | run
  | emit (line : String)

/-- What a step answers. -/
inductive Reply where
  | nothing
  | weights (calibration : Calibration)
  | size (count : Nat)
  | mids (mids : List Float)
  | text (text : String)
  | thresholds (thresholds : Thresholds)
  | config (config : Config)
  | settings (settings : Settings)

/-- Why a step fails. -/
inductive Fault where
  | input (fault : InputFault)
  | source (error : SourceError)
  | report (refusal : ReportError)
  | failure (failure : Failure)

/-- Keeps readings that were taken. -/
def keepReadings (session : Session) (taken : Except SourceError ReadingSet) :
    Except Fault Reply × Session :=
  match taken with
  | .error error => (.error (.source error), session)
  | .ok set => (.ok (.size set.size), { session with readings := some set })

/-- Keeps thresholds that were made. -/
def keepThresholds (session : Session) (made : Except ReportError Thresholds) :
    Except Fault Reply × Session :=
  match made with
  | .error refusal => (.error (.report refusal), session)
  | .ok thresholds => (.ok (.thresholds thresholds), { session with thresholds := some thresholds })

/-- A source's answer to readings that were taken by hand. -/
def takenByHand (taken : Except InputFault ReadingSet) : Except SourceError ReadingSet :=
  match taken with
  | .error fault => .error (.invalid fault)
  | .ok set => .ok set

/-- The settings that the session stands for. -/
def settings (session : Session) : Except Failure Settings :=
  Settings.resolve session.overrides session.config

/-- Computes midpoints once more, with the thresholds in the place of the covered readings. -/
def recalibrated (session : Session) : Except Fault Reply × Session :=
  match session.readings, session.thresholds with
  | some set, some thresholds =>
    match session.calibration.compute set.highs (thresholds.values.map UInt16.toFloat) with
    | .error fault => (.error (.input fault), session)
    | .ok mids => (.ok (.mids mids), { session with mids := mids })
  | _, _ => (.ok .nothing, session)

/-- Resolves the settings and runs into the sink. -/
def ran (session : Session) : Except Fault Reply × Session :=
  match session.settings with
  | .error failure => (.error (.failure failure), session)
  | .ok settings =>
    match settings.run session.tree.files session.sink with
    | (.error failure, sink) => (.error (.failure failure), { session with sink := sink })
    | (.ok line, sink) => (.ok (.text line), { session with sink := sink })

/-- **One step**: what it answers, and the session after it. -/
def step (session : Session) : Step → Except Fault Reply × Session
  | .weigh none => (.ok .nothing, session)
  | .weigh (some calibration) =>
    (.ok (.weights calibration), { session with calibration := calibration })
  | .takeReadings highs lows => session.keepReadings (takenByHand (ReadingSet.ofLists highs lows))
  | .takeCounts highs lows => session.keepReadings (takenByHand (ReadingSet.ofCounts highs lows))
  | .load source => session.keepReadings (source.load session.tree.files)
  | .midpoints =>
    match session.readings with
    | none => (.ok .nothing, session)
    | some set =>
      let mids := session.calibration.apply set
      (.ok (.mids mids), { session with mids := mids })
  | .render format separator =>
    match PegBox.render session.mids format separator with
    | .error refusal => (.error (.report refusal), session)
    | .ok line => (.ok (.text line), session)
  | .store => session.keepThresholds (Thresholds.ofMidpoints session.mids)
  | .decode payload => session.keepThresholds (Thresholds.ofPayload payload)
  | .display =>
    match session.thresholds with
    | none => (.ok .nothing, session)
    | some thresholds => (.ok (.thresholds thresholds), session)
  | .recalibrate => session.recalibrated
  | .put path node => (.ok .nothing, { session with tree := session.tree.put path node })
  | .remove path => (.ok .nothing, { session with tree := session.tree.remove path })
  | .configure path =>
    match Config.load session.tree.files path with
    | .error failure => (.error (.failure failure), session)
    | .ok config => (.ok (.config config), { session with config := some config })
  | .clearConfig => (.ok .nothing, { session with config := none })
  | .override overrides => (.ok .nothing, { session with overrides := overrides })
  | .resolve =>
    match session.settings with
    | .error failure => (.error (.failure failure), session)
    | .ok settings => (.ok (.settings settings), session)
  | .run => session.ran
  | .emit line =>
    match session.sink.emit line with
    | (.error error, sink) => (.error (.failure (.output error)), { session with sink := sink })
    | (.ok (), sink) => (.ok .nothing, { session with sink := sink })

/-- Steps one after the other: what each answers with the session after it. -/
def steps (session : Session) : List Step → List (Except Fault Reply × Session)
  | [] => []
  | next :: rest =>
    let answer := session.step next
    answer :: answer.2.steps rest

end Session

end PegBox
