/-
**The result line.**

The result of a calibration is one line, to be pasted into a console or read by eye.  The decimal
format shows any midpoint; the other two show what the box can store, and are refused where a
midpoint does not fit.

Main definitions:

* `PegBox.decimalLine` — the truncated midpoints in decimal;
* `PegBox.paddedHex` — a number in at least so many hexadecimal digits;
* `PegBox.wireHex` — the two bytes of a threshold as they travel;
* `PegBox.consoleCall` — the call that stores thresholds in the box;
* `PegBox.render` — **the line of a list of midpoints in a format**.
-/

import PegBox.OutputFormat
import PegBox.Thresholds

set_option autoImplicit false

namespace PegBox

/-- The truncated midpoints in decimal, with a separator between them. -/
def decimalLine (mids : List Float) (separator : String) : String :=
  separator.intercalate (mids.map fun mid => toString (Binary64.truncate mid))

/-- A byte in two lower-case hexadecimal digits. -/
def byteHex (byte : UInt8) : String :=
  String.ofList [Nat.digitChar (byte.toNat / 16), Nat.digitChar (byte.toNat % 16)]

/-- A number in lower-case hexadecimal digits, with zeros in front where they are fewer than the
width. -/
def paddedHex (width number : Nat) : List Char :=
  let digits := Nat.toDigits 16 number
  List.replicate (width - digits.length) '0' ++ digits

/-- The two bytes of a threshold in the order in which they travel: the low byte, whose digits come
last in the word, comes first. -/
def wireHex (threshold : UInt16) : String :=
  let digits := paddedHex 4 threshold.toNat
  String.ofList ((digits.drop 2).take 2) ++ " " ++ String.ofList (digits.take 2)

/-- The call that stores thresholds in the box. -/
def consoleCall (thresholds : Thresholds) : String :=
  "await device.set_feature('peg_thresholds', ["
    ++ ",".intercalate (thresholds.values.map fun threshold => toString threshold.toNat)
    ++ "]);"

/-- **The line of a list of midpoints.**  The decimal format takes any midpoints; the hexadecimal
one takes midpoints that fit a threshold each; the console call takes as many as the box has
pegs. -/
def render (mids : List Float) (format : OutputFormat) (separator : String) :
    Except ReportError String :=
  match format with
  | .decimal => .ok (decimalLine mids separator)
  | .hex =>
    match thresholdsFrom 0 mids with
    | .error refusal => .error refusal
    | .ok thresholds => .ok (separator.intercalate (thresholds.map wireHex))
  | .console =>
    match Thresholds.ofMidpoints mids with
    | .error refusal => .error refusal
    | .ok thresholds => .ok (consoleCall thresholds)

end PegBox
