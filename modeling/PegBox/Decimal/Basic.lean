/-
**Decimal numbers.**

A decimal is a signed natural coefficient and a power of ten.  The double nearest to it is found in
one rounding, ties going to the even neighbour; a decimal too large for a double becomes infinite
and one too small becomes a zero of its sign.

Main definitions:

* `PegBox.Decimal` — a sign, a coefficient and a power of ten;
* `PegBox.Decimal.toFloat` — **the nearest double**;
* `PegBox.Decimal.positional` — the written form without a power of ten.
-/

set_option autoImplicit false

namespace PegBox

/-- The number `± coefficient * 10 ^ exponent`. -/
structure Decimal where
  /-- Whether the sign is minus; a zero has a sign too. -/
  negative : Bool
  coefficient : Nat
  exponent : Int
  deriving DecidableEq, Repr

namespace Decimal

/-- **The double nearest to a decimal.** -/
def toFloat (number : Decimal) : Float :=
  let magnitude :=
    if 0 ≤ number.exponent then Float.ofScientific number.coefficient false number.exponent.toNat
    else Float.ofScientific number.coefficient true (-number.exponent).toNat
  if number.negative then -magnitude else magnitude

/-- The digits of a coefficient with a point before the last `places` of them; a zero stands before
a point that would come first. -/
def withPoint (coefficient places : Nat) : String :=
  let digits := Nat.toDigits 10 coefficient
  let padded := List.replicate (places + 1 - digits.length) '0' ++ digits
  let whole := padded.length - places
  String.ofList (padded.take whole ++ '.' :: padded.drop whole)

/-- The written form of a decimal without a power of ten: zeros fill the places down to the unit,
and a point stands only where places follow it. -/
def positional (number : Decimal) : String :=
  let magnitude :=
    if 0 ≤ number.exponent then
      String.ofList (Nat.toDigits 10 (number.coefficient * Nat.pow 10 number.exponent.toNat))
    else withPoint number.coefficient (-number.exponent).toNat
  if number.negative then "-" ++ magnitude else magnitude

end Decimal

end PegBox
