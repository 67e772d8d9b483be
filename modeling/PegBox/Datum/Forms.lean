/-
**The structured forms of the values of the box.**

Reading sets and thresholds have a structured form, and so do peg numbers and the names of formats
and captures.  What is read is checked as if it had been built by hand: readings have to pair up,
and there has to be one threshold for each peg.

Main definitions:

* `PegBox.ReadingSet.toDatum`, `PegBox.ReadingSet.ofDatum` — the form of a reading set;
* `PegBox.ReadingSet.capturesOf` — two captures from a form, by the record that is asked for;
* `PegBox.Thresholds.toDatum`, `PegBox.Thresholds.ofDatum` — the form of thresholds;
* `PegBox.PegId.toDatum`, `PegBox.PegId.ofDatum` — the form of a peg number;
* `PegBox.Preset.ofDatum`, `PegBox.OutputFormat.ofDatum` — names as choices.
-/

import PegBox.Datum.Shape
import PegBox.OutputFormat
import PegBox.Preset

set_option autoImplicit false

namespace PegBox

/-! ### Reading sets -/

namespace ReadingSet

/-- The structured form of two captures. -/
def formOf (highs lows : List Float) : Datum :=
  .mapping [("highs", .sequence (highs.map .float)), ("lows", .sequence (lows.map .float))]

/-- The structured form of a reading set. -/
def toDatum (set : ReadingSet) : Datum := formOf set.highs set.lows

/-- The record of a reading set, which ignores other fields. -/
def looseRecord : Datum.Record := ⟨"RawReadingSet", ["highs", "lows"], false⟩

/-- The record of a readings file, which refuses other fields. -/
def strictRecord : Datum.Record := ⟨"ReadingsFile", ["highs", "lows"], true⟩

/-- Two captures from a structured form, not paired yet. -/
def capturesOf (record : Datum.Record) (datum : Datum) :
    Except Datum.Fault (List Float × List Float) :=
  match record.read (fun _ => Datum.toList Datum.toFloat) datum with
  | .error fault => .error fault
  | .ok values =>
    match Datum.required "highs" values, Datum.required "lows" values with
    | .error fault, _ => .error fault
    | .ok _, .error fault => .error fault
    | .ok highs, .ok lows => .ok (highs, lows)

/-- A reading set from its structured form. -/
def ofDatum (datum : Datum) : Except Datum.Fault ReadingSet :=
  match capturesOf looseRecord datum with
  | .error fault => .error fault
  | .ok (highs, lows) =>
    match ofLists highs lows with
    | .error fault => .error (.unpaired fault)
    | .ok set => .ok set

end ReadingSet

/-! ### Thresholds -/

namespace Thresholds

/-- The structured form of thresholds. -/
def toDatum (thresholds : Thresholds) : Datum :=
  .mapping
    [("values", .sequence (thresholds.values.map fun word => .integer (word.toNat : Int)))]

/-- The record of thresholds, which ignores other fields. -/
def record : Datum.Record := ⟨"RawPegThresholds", ["values"], false⟩

/-- Thresholds from their structured form. -/
def ofDatum (datum : Datum) : Except Datum.Fault Thresholds :=
  match record.read (fun _ => Datum.toList Datum.toWord) datum with
  | .error fault => .error fault
  | .ok fields =>
    match Datum.required "values" fields with
    | .error fault => .error fault
    | .ok values =>
      match ofList values with
      | .error refusal => .error (.refused refusal)
      | .ok thresholds => .ok thresholds

end Thresholds

/-! ### Numbers and names -/

/-- The structured form of a peg number. -/
def PegId.toDatum (peg : PegId) : Datum := .integer (peg.id.toNat : Int)

/-- A peg number from its structured form. -/
def PegId.ofDatum (datum : Datum) : Except Datum.Fault PegId :=
  match datum.toByte with
  | .error fault => .error fault
  | .ok id => .ok ⟨id⟩

/-- The structured form of a bench capture is its name. -/
def Preset.toDatum (preset : Preset) : Datum := .text preset.name

/-- A bench capture from its structured form; the name has to be exact. -/
def Preset.ofDatum (medium : Medium) : Datum → Except Datum.Fault Preset :=
  Datum.toChoice medium (Preset.all.map fun preset => (preset.name, preset))

/-- The structured form of a format is its name. -/
def OutputFormat.toDatum (format : OutputFormat) : Datum := .text format.name

/-- A format from its structured form; the name has to be exact. -/
def OutputFormat.ofDatum (medium : Medium) : Datum → Except Datum.Fault OutputFormat :=
  Datum.toChoice medium (OutputFormat.all.map fun format => (format.name, format))

end PegBox
