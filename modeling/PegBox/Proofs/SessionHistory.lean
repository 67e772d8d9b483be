/-
**What a session keeps of its steps.**

Most steps of a session have nothing to do with its sink: what they answer and what they leave
behind is the same whatever the sink holds.  The other two, a run and a line, change nothing but the
sink.  A step of either kind that fails leaves the session as it was, but for a beginning of the
line that it offered, which may be in the sink.

So after any steps the session is, beside its sink, what it is after those alone that did not fail;
and the sink holds the beginning, as long as its room, of all that was offered.

Main definitions:

* `PegBox.Session.withSink` — a session with another sink;
* `PegBox.Session.offered`, `PegBox.Session.offeredBy` — the bytes that steps offer to the sink;
* `PegBox.Session.after` — a session after some steps;
* `PegBox.Session.succeeded` — the steps of a session that do not fail.

Main results:

* `PegBox.Session.step_of_error` — **what a step that fails leaves behind**;
* `PegBox.Session.step_withSink` — a step does the same beside any sink;
* `PegBox.Session.after_succeeded` — **steps that fail leave a trace in the sink only**;
* `PegBox.Session.contents_after_start` — what the sink of a session holds after any steps.
-/

import PegBox.Proofs.SinkHistory
import PegBox.Session

set_option autoImplicit false

namespace PegBox

/-- A sink takes a beginning of a line that it is offered, and changes in nothing else. -/
theorem Sink.exists_grown_emit (sink : Sink) (line : String) :
    ∃ written, written <+: terminated line ∧ (sink.emit line).2 = sink.grown written := by
  by_cases hroom : sink.HasRoom (terminated line).length
  · refine ⟨terminated line, List.prefix_rfl, ?_⟩
    rw [emit_of_hasRoom hroom, flush]
    split <;> rfl
  · exact ⟨_, List.take_prefix _ _, by rw [emit_of_not_hasRoom hroom]⟩

namespace Session

/-! ### Beside the sink -/

/-- A session with another sink. -/
def withSink (session : Session) (sink : Sink) : Session := { session with sink := sink }

@[simp]
theorem withSink_sink (session : Session) (sink : Sink) : (session.withSink sink).sink = sink := rfl

@[simp]
theorem withSink_withSink (session : Session) (sink other : Sink) :
    (session.withSink sink).withSink other = session.withSink other := rfl

@[simp]
theorem withSink_self (session : Session) : session.withSink session.sink = session := rfl

/-- **An answer that has nothing to do with the sink**: it is the same beside any sink, and it keeps
the session as it was if it is a fault. -/
inductive Quiet (session : Session) (answer : Sink → Except Fault Reply × Session) : Prop where
  | kept (reply : Reply) (after : Session)
      (h : ∀ sink, answer sink = (.ok reply, after.withSink sink))
  | failed (fault : Fault) (h : ∀ sink, answer sink = (.error fault, session.withSink sink))

variable {session : Session} {next : Step} {fault : Fault}

namespace Quiet

variable {answer : Sink → Except Fault Reply × Session}

theorem eq_withSink (h : session.Quiet answer) (sink : Sink) :
    (answer sink).2 = (answer session.sink).2.withSink sink := by
  cases h with
  | kept reply after h => rw [h, h, withSink_withSink]
  | failed fault h => rw [h, h, withSink_withSink]

theorem sink_eq (h : session.Quiet answer) (sink : Sink) : (answer sink).2.sink = sink := by
  rw [h.eq_withSink, withSink_sink]

theorem of_error (h : session.Quiet answer) {sink : Sink} (herror : (answer sink).1 = .error fault) :
    (answer sink).2 = session.withSink sink := by
  cases h with
  | kept reply after h =>
      rw [h] at herror
      cases herror
  | failed fault h => rw [h]

end Quiet

theorem quiet_keepReadings (session : Session) (taken : Except SourceError ReadingSet) :
    session.Quiet fun sink => (session.withSink sink).keepReadings taken := by
  cases taken with
  | error error => exact .failed _ fun _ => rfl
  | ok set => exact .kept _ { session with readings := some set } fun _ => rfl

theorem quiet_keepThresholds (session : Session) (made : Except ReportError Thresholds) :
    session.Quiet fun sink => (session.withSink sink).keepThresholds made := by
  cases made with
  | error refusal => exact .failed _ fun _ => rfl
  | ok thresholds => exact .kept _ { session with thresholds := some thresholds } fun _ => rfl

theorem quiet_recalibrated (session : Session) :
    session.Quiet fun sink => (session.withSink sink).recalibrated := by
  simp only [recalibrated, withSink]
  split
  · split
    · exact .failed _ fun _ => rfl
    · next mids _ => exact .kept _ { session with mids := mids } fun _ => rfl
  · exact .kept _ session fun _ => rfl

/-- The steps that write into the sink. -/
def Step.usesSink : Step → Bool
  | .run | .emit _ => true
  | _ => false

/-- The other steps have nothing to do with the sink. -/
theorem quiet_step (h : next.usesSink = false) (session : Session) :
    session.Quiet fun sink => (session.withSink sink).step next := by
  cases next with
  | weigh calibration =>
      cases calibration with
      | none => exact .kept _ session fun _ => rfl
      | some calibration => exact .kept _ { session with calibration := calibration } fun _ => rfl
  | takeReadings highs lows => exact quiet_keepReadings session _
  | takeCounts highs lows => exact quiet_keepReadings session _
  | load source => exact quiet_keepReadings session (source.load session.tree.files)
  | midpoints =>
      simp only [step, withSink]
      split
      · exact .kept _ session fun _ => rfl
      · next set _ =>
        exact .kept _ { session with mids := session.calibration.apply set } fun _ => rfl
  | render format separator =>
      simp only [step, withSink]
      split
      · exact .failed _ fun _ => rfl
      · exact .kept _ session fun _ => rfl
  | store => exact quiet_keepThresholds session (Thresholds.ofMidpoints session.mids)
  | decode payload => exact quiet_keepThresholds session _
  | display =>
      simp only [step, withSink]
      split <;> exact .kept _ session fun _ => rfl
  | recalibrate => exact quiet_recalibrated session
  | put path node =>
      exact .kept _ { session with tree := session.tree.put path node } fun _ => rfl
  | remove path => exact .kept _ { session with tree := session.tree.remove path } fun _ => rfl
  | configure path =>
      simp only [step, withSink]
      split
      · exact .failed _ fun _ => rfl
      · next config _ => exact .kept _ { session with config := some config } fun _ => rfl
  | clearConfig => exact .kept _ { session with config := none } fun _ => rfl
  | override overrides => exact .kept _ { session with overrides := overrides } fun _ => rfl
  | resolve =>
      simp only [step, settings, withSink]
      split
      · exact .failed _ fun _ => rfl
      · exact .kept _ session fun _ => rfl
  | run | emit => cases h

/-- A step that writes into the sink changes nothing else. -/
theorem step_of_usesSink (h : next.usesSink = true) (session : Session) :
    (session.step next).2 = session.withSink (session.step next).2.sink := by
  cases next with
  | run =>
      rw [step, ran]
      split
      · rfl
      · split <;> rfl
  | emit line =>
      rw [step]
      split <;> rfl
  | _ => cases h

/-- **A step does the same beside any sink**, but for what it writes into the sink. -/
theorem step_withSink (session : Session) (sink : Sink) (next : Step) :
    ((session.withSink sink).step next).2 =
      (session.step next).2.withSink ((session.withSink sink).step next).2.sink := by
  cases huses : next.usesSink with
  | false =>
      have hquiet := quiet_step huses session
      rw [hquiet.sink_eq sink]
      exact hquiet.eq_withSink sink
  | true =>
      rw [step_of_usesSink huses (session.withSink sink), step_of_usesSink huses session]
      rfl

/-! ### What is offered to the sink -/

/-- The line that a step offers to the sink, if it offers one. -/
def line? (session : Session) : Step → Option String
  | .run =>
    match session.settings with
    | .error _ => none
    | .ok settings => (settings.line session.tree.files).toOption
  | .emit line => some line
  | _ => none

/-- The bytes that a step offers to the sink. -/
def offered (session : Session) (next : Step) : List UInt8 :=
  match session.line? next with
  | none => []
  | some line => Sink.terminated line

theorem sink_ran_of_line {settings : Settings} {line : String}
    (hsettings : session.settings = .ok settings)
    (hline : settings.line session.tree.files = .ok line) :
    session.ran.2.sink = (session.sink.emit line).2 := by
  rw [ran, hsettings]
  dsimp only
  rw [Settings.run_of_line hline]
  cases Settings.answerTo line (LineOutput.emit line session.sink).1 <;> rfl

/-- A step without a line leaves the sink alone; one with a line writes it. -/
theorem sink_step (session : Session) (next : Step) :
    (session.step next).2.sink =
      match session.line? next with
      | none => session.sink
      | some line => (session.sink.emit line).2 := by
  cases huses : next.usesSink with
  | false =>
      have hline : session.line? next = none := by
        cases next with
        | run | emit => cases huses
        | _ => rfl
      rw [hline]
      exact (quiet_step huses session).sink_eq session.sink
  | true =>
      cases next with
      | run =>
          rw [step, line?]
          cases hsettings : session.settings with
          | error failure =>
              rw [ran, hsettings]
          | ok settings =>
              dsimp only
              cases hline : settings.line session.tree.files with
              | error failure =>
                  rw [ran, hsettings]
                  dsimp only
                  rw [Settings.run_of_line_error hline]
                  rfl
              | ok line => exact sink_ran_of_line hsettings hline
      | emit line =>
          rw [step, line?]
          dsimp only
          rcases session.sink.emit line with ⟨_ | _, after⟩ <;> rfl
      | _ => cases huses

/-- A step leaves the sink with a beginning of what it offered written into it. -/
theorem exists_grown_step (session : Session) (next : Step) :
    ∃ written, written <+: session.offered next ∧
      (session.step next).2.sink = session.sink.grown written := by
  rw [sink_step, offered]
  cases session.line? next with
  | none => exact ⟨[], List.prefix_rfl, session.sink.grown_nil.symm⟩
  | some line => exact session.sink.exists_grown_emit line

/-- **A step that fails** leaves the session as it was, but for a beginning of what it offered, which
is in the sink. -/
theorem step_of_error (h : (session.step next).1 = .error fault) :
    ∃ written, written <+: session.offered next ∧
      (session.step next).2 = session.withSink (session.sink.grown written) := by
  obtain ⟨written, hwritten, hsink⟩ := session.exists_grown_step next
  refine ⟨written, hwritten, ?_⟩
  rw [← hsink]
  cases huses : next.usesSink with
  | false =>
      have hsame : (session.step next).2 = session := (quiet_step huses session).of_error h
      rw [hsame, withSink_self]
  | true => exact step_of_usesSink huses session

/-- A step keeps the invariant of the sink. -/
theorem holds_step {capacity : Option Nat} {bytes : List UInt8}
    (h : session.sink.Holds capacity bytes) (next : Step) :
    (session.step next).2.sink.Holds capacity (bytes ++ session.offered next) := by
  rw [sink_step, offered]
  cases session.line? next with
  | none =>
      rw [List.append_nil]
      exact h
  | some line => exact h.emit line

/-! ### Steps one after the other -/

/-- The session after some steps. -/
def after (session : Session) (list : List Step) : Session :=
  ((session.steps list).getLast?.map Prod.snd).getD session

theorem after_nil (session : Session) : session.after [] = session := rfl

theorem after_cons (session : Session) (next : Step) (rest : List Step) :
    session.after (next :: rest) = (session.step next).2.after rest := by
  rw [after, steps, List.getLast?_cons, after]
  cases ((session.step next).2.steps rest).getLast? <;> rfl

/-- The steps that do not fail. -/
def succeeded (session : Session) : List Step → List Step
  | [] => []
  | next :: rest =>
    match session.step next with
    | (.error _, left) => left.succeeded rest
    | (.ok _, left) => next :: left.succeeded rest

/-- The bytes that steps offer to the sink. -/
def offeredBy (session : Session) : List Step → List UInt8
  | [] => []
  | next :: rest => session.offered next ++ (session.step next).2.offeredBy rest

/-- Beside any sink, steps lead to where those lead that do not fail. -/
theorem after_withSink_succeeded (session : Session) (sink other : Sink) (list : List Step) :
    ((session.withSink sink).after (session.succeeded list)).withSink other =
      (session.after list).withSink other := by
  induction list generalizing session sink with
  | nil => rfl
  | cons next rest ih =>
      rw [after_cons, succeeded]
      rcases hstep : session.step next with ⟨answer, left⟩
      cases answer with
      | error fault =>
          -- the step is left out, and beside its sink the session is where it was
          have hfails : (session.step next).1 = .error fault := by rw [hstep]
          obtain ⟨written, -, hleft⟩ := step_of_error hfails
          rw [hstep] at hleft
          have hsame : session.withSink sink = left.withSink sink := by
            rw [show left = _ from hleft, withSink_withSink]
          rw [hsame]
          exact ih left sink
      | ok reply =>
          have hdone := session.step_withSink sink next
          rw [hstep] at hdone
          dsimp only
          rw [after_cons, hdone]
          exact ih left _

/-- **Steps that fail leave a trace in the sink only**: after any steps the session is, beside its
sink, what it is after those that do not fail. -/
theorem after_succeeded (session : Session) (list : List Step) (other : Sink) :
    (session.after (session.succeeded list)).withSink other =
      (session.after list).withSink other :=
  session.after_withSink_succeeded session.sink other list

/-- Steps keep the invariant of the sink. -/
theorem holds_after {capacity : Option Nat} {bytes : List UInt8}
    (h : session.sink.Holds capacity bytes) (list : List Step) :
    (session.after list).sink.Holds capacity (bytes ++ session.offeredBy list) := by
  -- the later steps meet the session as this one leaves it
  induction list generalizing session bytes with
  | nil =>
      rw [after_nil, offeredBy, List.append_nil]
      exact h
  | cons next rest ih =>
      rw [after_cons, offeredBy, ← List.append_assoc]
      exact ih (holds_step h next)

/-- **The sink of a session** that starts with an empty one holds, after any steps, the beginning, as
long as its room, of all that they offered. -/
theorem contents_after_start (tree : FileTree) (capacity : Option Nat) (stalls flushFails : Bool)
    (list : List Step) :
    let session := start tree ⟨capacity, stalls, flushFails, []⟩
    (session.after list).sink.contents = Sink.firstBytes capacity (session.offeredBy list) := by
  intro session
  have hempty : session.sink.Holds capacity [] := ⟨rfl, (Sink.holds_ofCapacity capacity).bytes⟩
  exact (holds_after hempty list).bytes

end Session

end PegBox
