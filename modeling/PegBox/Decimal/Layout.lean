/-
**How doubles are written.**

A double is written as the shortest decimal that reads back as it.  Its digits stand in their places
around a point, or behind a point of their own with a power of ten.  Where the one form ends and the
other begins, and which of two equally short decimals is taken, is a matter of layout.

Main definitions:

* `PegBox.Decimal.Layout` — what is left to choose;
* `PegBox.Decimal.scientific` — a decimal with one digit before the point and a power of ten;
* `PegBox.Decimal.Layout.text` — **the text of a double**.
-/

import PegBox.Decimal.Shortest

set_option autoImplicit false

namespace PegBox.Decimal

/-- What is left to choose where a double is written. -/
structure Layout where
  tie : Tie
  /-- The least and the greatest number of places before the point for which the digits stand in
  their places; without these bounds they always do. -/
  bounds : Option (Int × Int)
  deriving DecidableEq, Repr

/-- The number of places before the point, counted from the first digit; it is negative where zeros
follow the point. -/
def wholePlaces (number : Decimal) : Int :=
  ((Nat.toDigits 10 number.coefficient).length : Int) + number.exponent

/-- The written form with at least one place behind the point. -/
def positionalWithPoint (number : Decimal) : String :=
  if number.exponent < 0 then number.positional else number.positional ++ ".0"

/-- The sign and the digits of a power of ten. -/
def powerText (power : Int) : String :=
  (if power < 0 then "-" else "+") ++ toString power.natAbs

/-- The written form with one digit before the point and a power of ten; the point stands only where
digits follow it. -/
def scientific (number : Decimal) : String :=
  let mantissa :=
    match Nat.toDigits 10 number.coefficient with
    | first :: second :: rest => first :: '.' :: second :: rest
    | digits => digits
  (if number.negative then "-" else "") ++ String.ofList mantissa ++ "e"
    ++ powerText (number.wholePlaces - 1)

namespace Layout

/-- Whether the digits of a decimal stand in their places. -/
def isPositional (layout : Layout) (number : Decimal) : Bool :=
  match layout.bounds with
  | none => true
  | some (least, greatest) => least ≤ number.wholePlaces && number.wholePlaces ≤ greatest

/-- **The text of a double.** -/
def text (layout : Layout) (value : Float) : String :=
  match Binary64.decode value with
  | .nan => "NaN"
  | .infinite negative => if negative then "-inf" else "inf"
  | .finite negative significand exponent =>
    let number := shortest layout.tie negative significand exponent
    if layout.isPositional number then number.positionalWithPoint else number.scientific

end Layout

end PegBox.Decimal
