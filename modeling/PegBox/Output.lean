/-
**Where result lines go.**

A line is written to an output with a newline after it.  An output may have room for so many bytes
only, and it may fail to flush; what had room stays written.

Main definitions:

* `PegBox.OutputError` — why a line could not be written;
* `PegBox.LineOutput` — **what takes lines**: the answer to a line, and the output after it;
* `PegBox.Sink` — an output of bytes with limited room;
* `PegBox.Sink.accept` — one write, which may take fewer bytes than it is offered;
* `PegBox.Sink.write`, `PegBox.Sink.emit` — writing bytes until none is left, and writing a line;
* instances for `Sink` and for `String`, a text without a limit.

Main results:

* `PegBox.Sink.write_of_le`, `PegBox.Sink.write_of_lt` — bytes that fit are written; of other bytes
  those are written for which there is room, and the write fails;
* `PegBox.Sink.write_contents` — what is written is a beginning of what should be written.
-/

set_option autoImplicit false

namespace PegBox

/-! ### Outputs -/

/-- Why bytes could not be written. -/
inductive WriteFault where
  | full
  | stalled
  | flushFailed
  | other (words : String)
  deriving DecidableEq, Repr

/-- The words for a write that failed. -/
def WriteFault.words : WriteFault → String
  | .full => "sink full"
  | .stalled => "failed to write whole buffer"
  | .flushFailed => "flush failed"
  | .other words => words

/-- A line could not be written. -/
structure OutputError where
  fault : WriteFault
  deriving DecidableEq, Repr

/-- What the operator is told about a line that could not be written. -/
def OutputError.message (error : OutputError) : String :=
  "failed to write output: " ++ error.fault.words

/-- **What takes lines.** -/
class LineOutput (σ : Type) where
  emit : String → σ → Except OutputError Unit × σ

/-- A text takes every line. -/
instance : LineOutput String where
  emit line text := (.ok (), text ++ line ++ "\n")

/-! ### Sinks -/

/-- An output of bytes. -/
structure Sink where
  /-- How many bytes there is room for in all, if there is a limit. -/
  capacity : Option Nat
  /-- Whether a full sink takes no byte and says nothing, rather than refuse the bytes. -/
  stalls : Bool
  flushFails : Bool
  contents : List UInt8
  deriving DecidableEq

namespace Sink

/-- How many of a number of bytes there is room for. -/
def fitting (sink : Sink) (count : Nat) : Nat :=
  match sink.capacity with
  | none => count
  | some capacity => min count (capacity - sink.contents.length)

/-- The sink with more bytes in it. -/
def grown (sink : Sink) (bytes : List UInt8) : Sink :=
  { sink with contents := sink.contents ++ bytes }

/-- One write: the sink takes the bytes for which there is room, and says how many.  Without room it
refuses the bytes, or says that it took none. -/
def accept (bytes : List UInt8) (sink : Sink) : Except OutputError Nat × Sink :=
  let count := sink.fitting bytes.length
  if bytes ≠ [] ∧ count = 0 ∧ sink.stalls = false then (.error ⟨.full⟩, sink)
  else (.ok count, sink.grown (bytes.take count))

/-- Writes until no byte is left; a write that fails or takes no byte is the last one. -/
def write (bytes : List UInt8) (sink : Sink) : Except OutputError Unit × Sink :=
  if bytes = [] then (.ok (), sink)
  else
    match sink.accept bytes with
    | (.error error, after) => (.error error, after)
    | (.ok 0, after) => (.error ⟨.stalled⟩, after)
    | (.ok (count + 1), after) => after.write (bytes.drop (count + 1))
termination_by bytes.length
decreasing_by
  have hpos := List.length_pos_iff.2 ‹bytes ≠ []›
  rw [List.length_drop]
  omega

/-- Flushes a sink. -/
def flush (sink : Sink) : Except OutputError Unit × Sink :=
  if sink.flushFails then (.error ⟨.flushFailed⟩, sink) else (.ok (), sink)

/-- The bytes of a text. -/
def bytesOf (text : String) : List UInt8 := text.toUTF8.data.toList

/-- Writes a line and then its newline, and flushes. -/
def emit (line : String) (sink : Sink) : Except OutputError Unit × Sink :=
  match sink.write (bytesOf line) with
  | (.error error, after) => (.error error, after)
  | (.ok (), afterLine) =>
    match afterLine.write (bytesOf "\n") with
    | (.error error, after) => (.error error, after)
    | (.ok (), afterNewline) => afterNewline.flush

instance : LineOutput Sink where
  emit := emit

/-! ### The loop of writes -/

@[simp]
theorem grown_contents (sink : Sink) (bytes : List UInt8) :
    (sink.grown bytes).contents = sink.contents ++ bytes := rfl

theorem grown_nil (sink : Sink) : sink.grown [] = sink := by
  rw [grown, List.append_nil]

theorem grown_grown (sink : Sink) (bytes more : List UInt8) :
    (sink.grown bytes).grown more = sink.grown (bytes ++ more) := by
  simp [grown]

/-- The answer to bytes for which there is no room. -/
def roomFault (sink : Sink) : OutputError := ⟨if sink.stalls then .stalled else .full⟩

theorem fitting_le (sink : Sink) (count : Nat) : sink.fitting count ≤ count := by
  unfold fitting
  split <;> omega

/-- What is taken takes up room. -/
theorem fitting_grown (sink : Sink) (bytes : List UInt8) (count : Nat) :
    (sink.grown bytes).fitting count = sink.fitting (bytes.length + count) - bytes.length := by
  unfold fitting
  rw [grown_contents, List.length_append]
  change (match sink.capacity with
    | none => count
    | some capacity => min count (capacity - (sink.contents.length + bytes.length))) = _
  split <;> omega

theorem write_nil (sink : Sink) : sink.write [] = (.ok (), sink) := by
  rw [write]
  rfl

theorem write_of_no_room {sink : Sink} {bytes : List UInt8} (hne : bytes ≠ [])
    (h : sink.fitting bytes.length = 0) : sink.write bytes = (.error sink.roomFault, sink) := by
  rw [write, if_neg hne, accept, h]
  cases hstalls : sink.stalls <;> simp [hne, roomFault, hstalls, grown_nil]

/-- One round of the loop takes the bytes for which there is room. -/
theorem write_of_room {sink : Sink} {bytes : List UInt8} {count : Nat}
    (h : sink.fitting bytes.length = count) (hpos : 0 < count) :
    sink.write bytes = (sink.grown (bytes.take count)).write (bytes.drop count) := by
  obtain ⟨rest, rfl⟩ := Nat.exists_eq_add_one_of_ne_zero (Nat.pos_iff_ne_zero.1 hpos)
  have hne : bytes ≠ [] := by
    intro hnil
    have hle := sink.fitting_le bytes.length
    rw [h, hnil, List.length_nil] at hle
    omega
  rw [write, if_neg hne, accept, h]
  simp

/-- Bytes that fit are written. -/
theorem write_of_le {sink : Sink} {bytes : List UInt8}
    (h : sink.fitting bytes.length = bytes.length) :
    sink.write bytes = (.ok (), sink.grown bytes) := by
  by_cases hne : bytes = []
  · rw [hne, write_nil, grown_nil]
  · rw [write_of_room h (List.length_pos_iff.2 hne), List.take_length, List.drop_length, write_nil]

/-- Of bytes that do not fit those are written for which there is room, and the write fails. -/
theorem write_of_lt {sink : Sink} {bytes : List UInt8}
    (h : sink.fitting bytes.length < bytes.length) :
    sink.write bytes =
      (.error sink.roomFault, sink.grown (bytes.take (sink.fitting bytes.length))) := by
  by_cases hzero : sink.fitting bytes.length = 0
  · have hne : bytes ≠ [] := List.length_pos_iff.1 (by omega)
    rw [write_of_no_room hne hzero, hzero, List.take_zero, grown_nil]
  · rw [write_of_room rfl (Nat.pos_of_ne_zero hzero)]
    have hrest : bytes.drop (sink.fitting bytes.length) ≠ [] := by
      rw [Ne, List.drop_eq_nil_iff]
      omega
    -- after the first round the sink is full
    refine write_of_no_room hrest ?_
    rw [fitting_grown, List.length_take, List.length_drop, Nat.min_eq_left (Nat.le_of_lt h),
      Nat.add_sub_cancel' (Nat.le_of_lt h), Nat.sub_self]

/-- What is written is a beginning of what should be written. -/
theorem write_contents (bytes : List UInt8) (sink : Sink) :
    (sink.write bytes).2.contents = sink.contents ++ bytes.take (sink.fitting bytes.length) := by
  rcases Nat.lt_or_eq_of_le (sink.fitting_le bytes.length) with h | h
  · rw [write_of_lt h, grown_contents]
  · rw [write_of_le h, grown_contents, h, List.take_length]

end Sink

end PegBox
