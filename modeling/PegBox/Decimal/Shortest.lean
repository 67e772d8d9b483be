/-
**The shortest decimal of a double.**

Every real number of a certain interval around a double is nearer to it than to any other double, so
any decimal in that interval reads back as the double.  The shortest one is found on the coarsest
power of ten that has a multiple in the interval.  All arithmetic is on natural numbers and exact.

Main definitions:

* `PegBox.Decimal.Tie` — which of two equally near decimals is taken;
* `PegBox.Decimal.Neighbourhood` — a double with the interval of the reals that round to it;
* `PegBox.Decimal.Neighbourhood.hit?` — the multiple of a power of ten in the interval, the nearer
  one of two;
* `PegBox.Decimal.shortest` — **the shortest decimal that reads back as a given finite double**.
-/

import PegBox.Binary64
import PegBox.Decimal.Basic

set_option autoImplicit false

namespace PegBox.Decimal

/-- Which of two equally near decimals of one length is taken. -/
inductive Tie where
  | up
  | toEven
  deriving DecidableEq, Repr

/-! ### The interval around a double -/

/-- A positive double with the interval of the reals that round to it, all in the unit
`2 ^ unit`. -/
structure Neighbourhood where
  centre : Nat
  low : Nat
  high : Nat
  unit : Int
  /-- Whether the ends belong to the interval: a tie between two doubles goes to the one with the
  even significand. -/
  closed : Bool

/-- The neighbourhood of `significand * 2 ^ exponent`.  The double below is nearer where the
significand is the least of its binade and smaller doubles have a smaller exponent. -/
def Neighbourhood.of (significand : Nat) (exponent : Int) : Neighbourhood where
  centre := 4 * significand
  low :=
    if significand = Binary64.fractionBound ∧ -1074 < exponent then 4 * significand - 1
    else 4 * significand - 2
  high := 4 * significand + 2
  unit := exponent - 2
  closed := significand % 2 = 0

namespace Neighbourhood

/-- A count of units against a count of powers of ten: the two natural numbers to compare once both
are scaled to whole numbers. -/
def scaled (n : Neighbourhood) (units : Nat) (multiple : Nat) (place : Int) : Nat × Nat :=
  (units * Nat.pow 2 n.unit.toNat * Nat.pow 10 (-place).toNat,
    multiple * Nat.pow 10 place.toNat * Nat.pow 2 (-n.unit).toNat)

/-- Whether a multiple of `10 ^ place` lies in the interval. -/
def contains (n : Neighbourhood) (multiple : Nat) (place : Int) : Bool :=
  let (low, fromLow) := n.scaled n.low multiple place
  let (high, fromHigh) := n.scaled n.high multiple place
  if n.closed then low ≤ fromLow && fromHigh ≤ high else low < fromLow && fromHigh < high

/-- The multiple of `10 ^ place` just below the double. -/
def below (n : Neighbourhood) (place : Int) : Nat :=
  let (centre, one) := n.scaled n.centre 1 place
  centre / one

/-- Whether the multiple above the double is taken rather than the multiple below: it is nearer, or
as near and wanted by the rule for ties. -/
def takesAbove (tie : Tie) (n : Neighbourhood) (place : Int) : Bool :=
  let (centre, one) := n.scaled n.centre 1 place
  let twice := 2 * (centre % one)
  match tie with
  | .up => one ≤ twice
  | .toEven => one < twice || (one = twice && (centre / one) % 2 = 1)

/-- The multiple of `10 ^ place` in the interval; of two, the nearer one, and where they are equally
near the one that the rule for ties wants. -/
def hit? (tie : Tie) (n : Neighbourhood) (place : Int) : Option Nat :=
  let lower := n.below place
  match n.contains lower place, n.contains (lower + 1) place with
  | true, true => some (if n.takesAbove tie place then lower + 1 else lower)
  | true, false => some lower
  | false, true => some (lower + 1)
  | false, false => none

/-- The first hit on the powers of ten from `place` downward, among `count` of them. -/
def firstHit (tie : Tie) (n : Neighbourhood) : Nat → Int → Nat × Int
  | 0, place => (n.below place, place)
  | count + 1, place =>
    match n.hit? tie place with
    | some multiple => (multiple, place)
    | none => n.firstHit tie count (place - 1)

/-- A power of ten above the double, by its number of bits. -/
def topPlace (n : Neighbourhood) : Int :=
  ((n.centre.log2 : Int) + 1 + n.unit) * 30103 / 100000 + 2

end Neighbourhood

/-- **The shortest decimal that reads back as `± significand * 2 ^ exponent`.**  Seventeen digits
are always enough, so the search ends on one of the powers of ten below the top. -/
def shortest (tie : Tie) (negative : Bool) (significand : Nat) (exponent : Int) : Decimal :=
  if significand = 0 then ⟨negative, 0, 0⟩
  else
    let n := Neighbourhood.of significand exponent
    let (coefficient, place) := n.firstHit tie 24 n.topPlace
    ⟨negative, coefficient, place⟩

end PegBox.Decimal
