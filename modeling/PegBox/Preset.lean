/-
**The captures that come with the box.**

Two captures were taken on the bench, with the pegs uncovered and with the pegs covered.  They are
known by name, and each has a separator that its result is usually written with.

Main definitions:

* `PegBox.Preset` — the bench captures;
* `PegBox.Preset.name`, `PegBox.Preset.ofName` — the name of a capture, and the capture of a name;
* `PegBox.Preset.highs`, `PegBox.Preset.lows` — the counts of a capture;
* `PegBox.Preset.readings` — **the reading set of a capture**, which always pairs up.
-/

import PegBox.ReadingSet

set_option autoImplicit false

namespace PegBox

/-- The captures taken on the bench. -/
inductive Preset where
  | capture1
  | capture2
  deriving DecidableEq, Repr

namespace Preset

/-- The capture of a run that asks for none. -/
def standard : Preset := .capture1

/-- All captures, in the order in which they are listed to the operator. -/
def all : List Preset := [.capture1, .capture2]

/-- The name of a capture. -/
def name : Preset → String
  | .capture1 => "capture-1"
  | .capture2 => "capture-2"

/-- The counts with the pegs uncovered. -/
def highs : Preset → List UInt16
  | .capture1 => [833, 712, 700, 677, 674, 569]
  | .capture2 => [837, 702, 708, 693, 679, 582]

/-- The counts with the pegs covered. -/
def lows : Preset → List UInt16
  | .capture1 => [40, 34, 33, 34, 37, 32]
  | .capture2 => [37, 33, 32, 33, 36, 30]

/-- The separator that the result of a capture is written with, unless another is asked for. -/
def separator : Preset → String
  | .capture1 => ","
  | .capture2 => " "

/-- What the operator is told about a name that stands for no capture; the name is quoted as
given. -/
def unknownMessage (name : String) : String :=
  "unknown preset '" ++ name ++ "'. Valid presets: capture-1, capture-2"

/-- The capture that a name stands for; only the case of ASCII letters is free. -/
def ofName (name : String) : Except String Preset :=
  match all.find? fun preset => preset.name.toLower == name.toLower with
  | some preset => .ok preset
  | none => .error (unknownMessage name)

/-- The reading set of a capture. -/
def readings (preset : Preset) : Except InputFault ReadingSet :=
  ReadingSet.ofCounts preset.highs preset.lows

end Preset

end PegBox
