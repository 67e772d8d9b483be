/-
**What a sink holds after any number of runs.**

One sink may serve many runs.  Each run that gets as far as a line offers it the bytes of the line
and of a newline; the sink takes what it has room for.  This module follows the sink through every
sequence of runs.  It always holds the beginning, as long as its room, of everything that was
offered so far: once a line is cut, nothing that is offered later is taken.

Between two runs the sink may change its mind: whether it stalls when it is full, and whether it
fails to flush, is part of the turn.  A run meets a full sink at most once, since the first write
that is not taken in full is its last; so one answer for each turn is as good as one for each write.

Main definitions:

* `PegBox.Sink.terminated` — the bytes of a line and of its newline;
* `PegBox.Turn` — a run, and how the sink behaves during it;
* `PegBox.Turn.offered`, `PegBox.offeredBy` — the bytes that runs offer;
* `PegBox.sinkAfter`, `PegBox.textAfter` — a sink and a text after a sequence of runs;
* `PegBox.Sink.Holds` — **the invariant**: the sink holds the beginning of what was offered.

Main results:

* `PegBox.Sink.emit_eq` — a line is written as if it were one piece with its newline;
* `PegBox.Sink.Holds.run`, `PegBox.Sink.Holds.sinkAfter` — a run keeps the invariant, and so does a
  sequence of runs;
* `PegBox.Turn.run_cases` — **what a run can do** to a sink;
* `PegBox.sink_history` — the contents, the answers and the state of a full sink, after any runs.
-/

import PegBox.Run

set_option autoImplicit false

namespace PegBox

namespace Sink

/-! ### Room -/

/-- A sink has room for so many bytes more. -/
def HasRoom (sink : Sink) (count : Nat) : Prop :=
  ∀ capacity, sink.capacity = some capacity → sink.contents.length + count ≤ capacity

theorem fitting_eq_iff {sink : Sink} {count : Nat} (hpos : 0 < count) :
    sink.fitting count = count ↔ sink.HasRoom count := by
  unfold fitting HasRoom
  cases sink.capacity with
  | none => simp
  | some capacity =>
      simp only [Option.some.injEq, forall_eq']
      omega

theorem fitting_of_hasRoom {sink : Sink} {count : Nat} (h : sink.HasRoom count) :
    sink.fitting count = count := by
  rcases Nat.eq_zero_or_pos count with rfl | hpos
  · exact Nat.le_zero.1 (sink.fitting_le 0)
  · exact (fitting_eq_iff hpos).2 h

theorem fitting_lt_of_not_hasRoom {sink : Sink} {count : Nat} (hpos : 0 < count)
    (h : ¬ sink.HasRoom count) : sink.fitting count < count :=
  Nat.lt_of_le_of_ne (sink.fitting_le count) (mt (fitting_eq_iff hpos).1 h)

/-! ### Writing in pieces -/

/-- More bytes do not find more room. -/
theorem fitting_add_of_lt {sink : Sink} {count : Nat} (more : Nat)
    (h : sink.fitting count < count) : sink.fitting (count + more) = sink.fitting count := by
  unfold fitting at *
  split at h <;> omega

theorem fitting_add_of_eq {sink : Sink} {count : Nat} (more : Nat)
    (h : sink.fitting count = count) : count ≤ sink.fitting (count + more) := by
  unfold fitting at *
  split at h <;> omega

/-- Where bytes are cut into pieces makes no difference. -/
theorem write_append (sink : Sink) (bytes more : List UInt8) :
    sink.write (bytes ++ more) =
      match sink.write bytes with
      | (.error error, after) => (.error error, after)
      | (.ok (), after) => after.write more := by
  have hlength : (bytes ++ more).length = bytes.length + more.length := List.length_append
  rcases Nat.lt_or_eq_of_le (sink.fitting_le bytes.length) with hcut | hfits
  · have hcount := fitting_add_of_lt more.length hcut
    rw [write_of_lt hcut, write_of_lt (by rw [hlength, hcount]; omega), hlength, hcount,
      List.take_append_of_le_length (by omega)]
  · have hcount := fitting_grown sink bytes more.length
    have hmore := fitting_add_of_eq more.length hfits
    rw [write_of_le hfits]
    dsimp only
    rcases Nat.lt_or_eq_of_le ((sink.grown bytes).fitting_le more.length) with hcut | hall
    -- the first piece fits and the second is cut: the whole is cut behind the first piece
    · rw [write_of_lt hcut, write_of_lt (by rw [hlength]; omega), hlength, grown_grown, hcount,
        List.take_append, List.take_of_length_le hmore]
      rfl
    · rw [write_of_le hall, write_of_le (by rw [hlength]; omega), grown_grown]

/-- The bytes of a line and of its newline. -/
def terminated (line : String) : List UInt8 := bytesOf line ++ bytesOf "\n"

theorem terminated_length_pos (line : String) : 0 < (terminated line).length := by
  have hnewline : (bytesOf "\n").length = 1 := by decide
  rw [terminated, List.length_append, hnewline]
  exact Nat.succ_pos _

/-- A line is written as if it were one piece with its newline. -/
theorem emit_eq (sink : Sink) (line : String) :
    sink.emit line =
      match sink.write (terminated line) with
      | (.error error, after) => (.error error, after)
      | (.ok (), after) => after.flush := by
  rw [terminated, write_append, emit]
  obtain ⟨answer, after⟩ := sink.write (bytesOf line)
  cases answer <;> rfl

/-! ### The invariant -/

/-- As many bytes as there is room for, if there is a limit. -/
def firstBytes : Option Nat → List UInt8 → List UInt8
  | none, bytes => bytes
  | some capacity, bytes => bytes.take capacity

/-- **A sink holds the beginning of what was offered to it**, as long as its room. -/
structure Holds (sink : Sink) (capacity : Option Nat) (offered : List UInt8) : Prop where
  room : sink.capacity = capacity
  bytes : sink.contents = firstBytes capacity offered

theorem Holds.write {sink : Sink} {capacity : Option Nat} {offered : List UInt8}
    (h : sink.Holds capacity offered) (bytes : List UInt8) :
    (sink.write bytes).2.Holds capacity (offered ++ bytes) := by
  have hroom : (sink.write bytes).2.capacity = sink.capacity := by
    rcases Nat.lt_or_eq_of_le (sink.fitting_le bytes.length) with hcut | hall
    · rw [write_of_lt hcut]
      rfl
    · rw [write_of_le hall]
      rfl
  refine ⟨hroom.trans h.room, ?_⟩
  rw [write_contents, fitting, h.room, h.bytes]
  cases capacity with
  | none => simp [firstBytes]
  | some capacity =>
      -- what is left of the room is the room less what was offered, once that is not cut
      have hleft : capacity - min capacity offered.length = capacity - offered.length := by omega
      simp only [firstBytes, List.length_take, List.take_append, hleft]
      rw [Nat.min_comm, ← List.take_eq_take_min]

theorem Holds.flush {sink : Sink} {capacity : Option Nat} {offered : List UInt8}
    (h : sink.Holds capacity offered) : sink.flush.2.Holds capacity offered := by
  unfold Sink.flush
  split <;> exact h

theorem Holds.emit {sink : Sink} {capacity : Option Nat} {offered : List UInt8}
    (h : sink.Holds capacity offered) (line : String) :
    (sink.emit line).2.Holds capacity (offered ++ terminated line) := by
  have hwrite := h.write (terminated line)
  rw [emit_eq]
  split
  · next heq => rwa [heq] at hwrite
  · next heq =>
    rw [heq] at hwrite
    exact hwrite.flush

/-! ### The answer to a line -/

theorem emit_of_hasRoom {sink : Sink} {line : String}
    (h : sink.HasRoom (terminated line).length) :
    sink.emit line = (sink.grown (terminated line)).flush := by
  rw [emit_eq, write_of_le (fitting_of_hasRoom h)]

theorem emit_of_not_hasRoom {sink : Sink} {line : String}
    (h : ¬ sink.HasRoom (terminated line).length) :
    sink.emit line = (.error sink.roomFault,
      sink.grown ((terminated line).take (sink.fitting (terminated line).length))) := by
  rw [emit_eq, write_of_lt (fitting_lt_of_not_hasRoom (terminated_length_pos line) h)]

end Sink

/-! ### Runs on one sink -/

/-- A run, and how the sink behaves during it. -/
structure Turn where
  settings : Settings
  files : Files
  stalls : Bool
  flushFails : Bool

namespace Turn

/-- The line of the run, or why there is none. -/
def line (turn : Turn) : Except Failure String := turn.settings.line turn.files

/-- The bytes that the run offers. -/
def offered (turn : Turn) : List UInt8 :=
  match turn.line with
  | .error _ => []
  | .ok line => Sink.terminated line

/-- A sink as it behaves during the run. -/
def ready (turn : Turn) (sink : Sink) : Sink :=
  { sink with stalls := turn.stalls, flushFails := turn.flushFails }

/-- The run on a sink. -/
def run (turn : Turn) (sink : Sink) : Except Failure String × Sink :=
  turn.settings.run turn.files (turn.ready sink)

end Turn

/-- A sink after a sequence of runs. -/
def sinkAfter (turns : List Turn) (sink : Sink) : Sink :=
  turns.foldl (fun sink turn => (turn.run sink).2) sink

/-- A text after a sequence of runs. -/
def textAfter (turns : List Turn) (text : String) : String :=
  turns.foldl (fun text turn => (turn.settings.run turn.files text).2) text

/-- The bytes that a sequence of runs offers. -/
def offeredBy (turns : List Turn) : List UInt8 := turns.flatMap Turn.offered

/-- A sink with so much room, and without a byte. -/
def Sink.ofCapacity (capacity : Option Nat) : Sink := ⟨capacity, false, false, []⟩

theorem Sink.holds_ofCapacity (capacity : Option Nat) :
    (Sink.ofCapacity capacity).Holds capacity [] := by
  refine ⟨rfl, ?_⟩
  cases capacity with
  | none => rfl
  | some capacity => exact List.take_nil.symm

namespace Turn

variable {turn : Turn} {sink : Sink}

theorem run_of_error {failure : Failure} (h : turn.line = .error failure) (sink : Sink) :
    turn.run sink = (.error failure, turn.ready sink) :=
  Settings.run_of_line_error h (turn.ready sink)

theorem run_of_ok {line : String} (h : turn.line = .ok line) (sink : Sink) :
    turn.run sink =
      (Settings.answerTo line ((turn.ready sink).emit line).1, ((turn.ready sink).emit line).2) :=
  Settings.run_of_line h (turn.ready sink)

/-- **What a run can do** to a sink, once it has a line: all of it is written and flushed; all of it
is written but not flushed; or a beginning of it is written. -/
theorem run_cases {line : String} (h : turn.line = .ok line) (sink : Sink) :
    (sink.HasRoom (Sink.terminated line).length ∧ turn.flushFails = false ∧
      turn.run sink = (.ok line, (turn.ready sink).grown (Sink.terminated line))) ∨
    (sink.HasRoom (Sink.terminated line).length ∧ turn.flushFails = true ∧
      turn.run sink = (.error (.output ⟨.flushFailed⟩),
        (turn.ready sink).grown (Sink.terminated line))) ∨
    (¬ sink.HasRoom (Sink.terminated line).length ∧
      turn.run sink = (.error (.output (turn.ready sink).roomFault),
        (turn.ready sink).grown
          ((Sink.terminated line).take (sink.fitting (Sink.terminated line).length)))) := by
  rw [run_of_ok h]
  by_cases hroom : sink.HasRoom (Sink.terminated line).length
  · rw [Sink.emit_of_hasRoom (show (turn.ready sink).HasRoom _ from hroom)]
    cases hflush : turn.flushFails with
    | false =>
        have hworks : ((turn.ready sink).grown (Sink.terminated line)).flushFails = false := hflush
        refine Or.inl ⟨hroom, rfl, ?_⟩
        rw [Sink.flush, hworks]
        rfl
    | true =>
        have hfails : ((turn.ready sink).grown (Sink.terminated line)).flushFails = true := hflush
        refine Or.inr (Or.inl ⟨hroom, rfl, ?_⟩)
        rw [Sink.flush, hfails]
        rfl
  · rw [Sink.emit_of_not_hasRoom (show ¬ (turn.ready sink).HasRoom _ from hroom)]
    exact Or.inr (Or.inr ⟨hroom, rfl⟩)

end Turn

/-- A run keeps the invariant. -/
theorem Sink.Holds.run {sink : Sink} {capacity : Option Nat} {offered : List UInt8}
    (h : sink.Holds capacity offered) (turn : Turn) :
    (turn.run sink).2.Holds capacity (offered ++ turn.offered) := by
  have hready : (turn.ready sink).Holds capacity offered := ⟨h.room, h.bytes⟩
  rw [Turn.offered]
  cases hline : turn.line with
  | error failure =>
      rw [Turn.run_of_error hline, List.append_nil]
      exact hready
  | ok line =>
      rw [Turn.run_of_ok hline]
      exact hready.emit line

/-- A sequence of runs keeps the invariant. -/
theorem Sink.Holds.sinkAfter {sink : Sink} {capacity : Option Nat} {offered : List UInt8}
    (h : sink.Holds capacity offered) (turns : List Turn) :
    (sinkAfter turns sink).Holds capacity (offered ++ offeredBy turns) := by
  -- the later turns meet the sink as this one leaves it, so sink and offers are generalised
  induction turns generalizing sink offered with
  | nil =>
      rw [offeredBy, List.flatMap_nil, List.append_nil]
      exact h
  | cons turn rest ih =>
      rw [offeredBy, List.flatMap_cons, ← List.append_assoc]
      exact ih (h.run turn)

/-! ### Full sinks -/

/-- A sink without room for another byte. -/
def Sink.IsFull (sink : Sink) : Prop := ¬ sink.HasRoom 1

namespace Sink

theorem IsFull.not_hasRoom {sink : Sink} (h : sink.IsFull) {count : Nat} (hpos : 0 < count) :
    ¬ sink.HasRoom count := by
  intro hroom
  apply h
  intro capacity hcapacity
  have hfits := hroom capacity hcapacity
  omega

theorem IsFull.fitting {sink : Sink} (h : sink.IsFull) (count : Nat) : sink.fitting count = 0 := by
  have hone := fitting_lt_of_not_hasRoom Nat.one_pos h
  unfold Sink.fitting at *
  split at hone <;> omega

/-- What did not fit has filled the sink. -/
theorem isFull_of_not_hasRoom {sink : Sink} {bytes : List UInt8}
    (h : ¬ sink.HasRoom bytes.length) :
    (sink.grown (bytes.take (sink.fitting bytes.length))).IsFull := by
  intro hone
  apply h
  intro capacity hcapacity
  have hfits := hone capacity hcapacity
  rw [grown_contents, List.length_append, List.length_take] at hfits
  unfold Sink.fitting at hfits
  rw [hcapacity] at hfits
  dsimp only at hfits
  omega

end Sink

namespace Turn

variable {turn : Turn} {sink : Sink}

/-- On a full sink a run with a line fails and leaves the sink as it is. -/
theorem run_of_isFull {line : String} (h : turn.line = .ok line) (hfull : sink.IsFull) :
    turn.run sink = (.error (.output (turn.ready sink).roomFault), turn.ready sink) := by
  have hpos := Sink.terminated_length_pos line
  obtain ⟨hroom, -⟩ | ⟨hroom, -⟩ | ⟨-, hrun⟩ := run_cases h sink
  · exact absurd hroom (hfull.not_hasRoom hpos)
  · exact absurd hroom (hfull.not_hasRoom hpos)
  · rw [hrun, hfull.fitting, List.take_zero, Sink.grown_nil]

/-- A run that fails for lack of room leaves a full sink. -/
theorem isFull_of_run {fault : WriteFault} (h : (turn.run sink).1 = .error (.output ⟨fault⟩))
    (hroom : fault = .full ∨ fault = .stalled) : (turn.run sink).2.IsFull := by
  cases hline : turn.line with
  | error failure =>
      -- a run without a line does not fail by its output
      rw [run_of_error hline] at h
      obtain ⟨_, -, rfl⟩ | ⟨_, _, -, -, rfl⟩ := Settings.line_error_cases hline <;> cases h
  | ok line =>
      obtain ⟨-, -, hrun⟩ | ⟨-, -, hrun⟩ | ⟨hcut, hrun⟩ := run_cases hline sink
      · rw [hrun] at h
        cases h
      · rw [hrun] at h
        cases h
        rcases hroom with hfull | hstalled
        · cases hfull
        · cases hstalled
      · rw [hrun]
        have hready : ¬ (turn.ready sink).HasRoom (Sink.terminated line).length := hcut
        exact Sink.isFull_of_not_hasRoom hready

theorem contents_of_isFull (turn : Turn) (h : sink.IsFull) :
    (turn.run sink).2.contents = sink.contents ∧ (turn.run sink).2.IsFull := by
  cases hline : turn.line with
  | error failure =>
      rw [run_of_error hline]
      exact ⟨rfl, h⟩
  | ok line =>
      rw [run_of_isFull hline h]
      exact ⟨rfl, h⟩

end Turn

/-- A full sink stays as it is. -/
theorem contents_sinkAfter_of_isFull {sink : Sink} (h : sink.IsFull) (turns : List Turn) :
    (sinkAfter turns sink).contents = sink.contents ∧ (sinkAfter turns sink).IsFull := by
  induction turns generalizing sink with
  | nil => exact ⟨rfl, h⟩
  | cons turn rest ih =>
      obtain ⟨hcontents, hfull⟩ := turn.contents_of_isFull h
      obtain ⟨hrest, hstill⟩ := ih hfull
      exact ⟨hrest.trans hcontents, hstill⟩

/-! ### A text beside the sink -/

theorem Sink.bytesOf_append (text more : String) :
    Sink.bytesOf (text ++ more) = Sink.bytesOf text ++ Sink.bytesOf more := by
  simp [Sink.bytesOf]

/-- A text takes the line of every run that has one. -/
theorem Turn.run_text (turn : Turn) (text : String) :
    turn.settings.run turn.files text =
      match turn.line with
      | .error failure => (.error failure, text)
      | .ok line => (.ok line, text ++ line ++ "\n") := by
  rw [Settings.run, show turn.settings.line turn.files = turn.line from rfl]
  cases turn.line <;> rfl

/-- A text collects the bytes that are offered to the sink. -/
theorem bytesOf_textAfter (turns : List Turn) (text : String) :
    Sink.bytesOf (textAfter turns text) = Sink.bytesOf text ++ offeredBy turns := by
  induction turns generalizing text with
  | nil => exact (List.append_nil _).symm
  | cons turn rest ih =>
      have hturn : Sink.bytesOf (turn.settings.run turn.files text).2 =
          Sink.bytesOf text ++ turn.offered := by
        rw [Turn.run_text, Turn.offered]
        cases turn.line with
        | error failure => exact (List.append_nil _).symm
        | ok line => simp only [Sink.bytesOf_append, Sink.terminated, List.append_assoc]
      rw [textAfter, List.foldl_cons]
      exact (ih _).trans (by rw [hturn, offeredBy, offeredBy, List.flatMap_cons, List.append_assoc])

/-- **The sink after any sequence of runs.**  It holds the beginning, as long as its room, of the
terminated lines of all runs so far.  The next run without a line leaves it alone; one with a line
succeeds exactly where the whole terminated line has room and the sink flushes, and otherwise fails
by its output, after a beginning of the terminated line.  Once a run fails for lack of room, every
later run with a line fails by its output and writes nothing.  A sink without a limit holds what a
text collects in its place. -/
theorem sink_history (capacity : Option Nat) (turns : List Turn) :
    let sink := sinkAfter turns (Sink.ofCapacity capacity)
    sink.contents = Sink.firstBytes capacity (offeredBy turns) ∧
    (∀ turn : Turn,
      (∀ failure, turn.line = .error failure →
        (turn.run sink).1 = .error failure ∧ (turn.run sink).2.contents = sink.contents) ∧
      (∀ line, turn.line = .ok line →
        ((turn.run sink).1 = .ok line ↔
          sink.HasRoom (Sink.terminated line).length ∧ turn.flushFails = false) ∧
        ((turn.run sink).1 = .ok line →
          (turn.run sink).2.contents = sink.contents ++ Sink.terminated line) ∧
        ((turn.run sink).1 ≠ .ok line →
          (∃ error, (turn.run sink).1 = .error (.output error)) ∧
            ∃ written, written <+: Sink.terminated line ∧
              (turn.run sink).2.contents = sink.contents ++ written))) ∧
    (∀ (cut : Turn) (fault : WriteFault), (cut.run sink).1 = .error (.output ⟨fault⟩) →
      fault = .full ∨ fault = .stalled →
      ∀ (later : List Turn) (last : Turn) (line : String), last.line = .ok line →
        let full := sinkAfter later (cut.run sink).2
        (∃ error, (last.run full).1 = .error (.output error)) ∧
          (last.run full).2.contents = full.contents ∧
          full.contents = (cut.run sink).2.contents) ∧
    (capacity = none →
      sink.contents = Sink.bytesOf (textAfter turns "") ∧
        ∀ turn : Turn, turn.flushFails = false → ∀ text : String,
          (turn.run sink).1 = (turn.settings.run turn.files text).1) := by
  intro sink
  have hholds := (Sink.holds_ofCapacity capacity).sinkAfter turns
  rw [List.nil_append] at hholds
  refine ⟨hholds.bytes, ?_, ?_, ?_⟩
  · intro turn
    constructor
    · intro failure hline
      rw [Turn.run_of_error hline]
      exact ⟨rfl, rfl⟩
    · intro line hline
      obtain ⟨hroom, hflush, hrun⟩ | ⟨hroom, hflush, hrun⟩ | ⟨hroom, hrun⟩ :=
        Turn.run_cases hline sink <;> rw [hrun]
      · exact ⟨iff_of_true rfl ⟨hroom, hflush⟩, fun _ => rfl, fun hne => absurd rfl hne⟩
      · refine ⟨by simp [hflush], fun hok => ?_, fun _ => ⟨⟨_, rfl⟩, _, List.prefix_rfl, rfl⟩⟩
        cases hok
      · refine ⟨by simp [hroom], fun hok => ?_, fun _ => ⟨⟨_, rfl⟩, _, List.take_prefix _ _, rfl⟩⟩
        cases hok
  · intro cut fault hcut hfault later last line hline
    have hfull := Turn.isFull_of_run hcut hfault
    obtain ⟨hsame, hstill⟩ := contents_sinkAfter_of_isFull hfull later
    dsimp only
    rw [Turn.run_of_isFull hline hstill]
    exact ⟨⟨_, rfl⟩, rfl, hsame⟩
  · rintro rfl
    constructor
    · have htext := bytesOf_textAfter turns ""
      rw [hholds.bytes, htext]
      rfl
    · intro turn hflush text
      rw [Turn.run_text]
      cases hline : turn.line with
      | error failure => rw [Turn.run_of_error hline]
      | ok line =>
          -- without a limit there is always room
          have hroom : sink.HasRoom (Sink.terminated line).length := by
            intro limit hlimit
            rw [hholds.room] at hlimit
            cases hlimit
          obtain ⟨-, -, hrun⟩ | ⟨-, hfails, -⟩ | ⟨hcut, -⟩ := Turn.run_cases hline sink
          · rw [hrun]
          · rw [hflush] at hfails
            cases hfails
          · exact absurd hroom hcut

end PegBox
