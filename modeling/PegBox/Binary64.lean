/-
**What a double stands for, and its whole part.**

A `Float` is a binary64 number.  This module reads the number off the bits: a sign, a natural
significand and a power of two, or one of the values that are no numbers.  On that reading it
defines the truncation that turns a midpoint into a whole count: the fraction is dropped toward
zero and the result is clamped to the range of a signed 64-bit word, so that truncation is total.

Main definitions:

* `PegBox.Binary64.Decoded` — the reading of a double;
* `PegBox.Binary64.decode` — **the reading**, from the sign, exponent and fraction fields;
* `PegBox.Binary64.truncate` — the whole part of a double, clamped to a signed 64-bit word.

Main results:

* `PegBox.Binary64.truncate_mem_range` — a truncation always fits a signed 64-bit word.
-/

set_option autoImplicit false

namespace PegBox.Binary64

/-! ### The reading of a double -/

/-- What the bits of a double stand for.  A finite double is `significand * 2 ^ exponent`, with the
sign in front; zero has the significand `0` and keeps its sign. -/
inductive Decoded where
  | nan
  | infinite (negative : Bool)
  /-- The number `± significand * 2 ^ exponent`. -/
  | finite (negative : Bool) (significand : Nat) (exponent : Int)
  deriving DecidableEq, Repr

/-- A fraction has fifty-two bits; the significand of a normal number has this much more. -/
def fractionBound : Nat := Nat.pow 2 52

/-- The reading of a double: one sign bit, eleven exponent bits and fifty-two fraction bits.  The
lowest exponent field stands for the subnormal numbers and the highest one for no number at all. -/
def decode (x : Float) : Decoded :=
  let bits := x.toBits.toNat
  let negative := decide (Nat.pow 2 63 ≤ bits)
  let field := bits / fractionBound % 2048
  let fraction := bits % fractionBound
  if field = 2047 then
    if fraction = 0 then .infinite negative else .nan
  else if field = 0 then
    .finite negative fraction (-1074)
  else
    .finite negative (fractionBound + fraction) ((field : Int) - 1075)

/-! ### Truncation -/

/-- The smallest signed 64-bit word. -/
def minWord : Int := -9223372036854775808

/-- The largest signed 64-bit word. -/
def maxWord : Int := 9223372036854775807

/-- The nearest signed 64-bit word to a whole number. -/
def clampToWord (n : Int) : Int := max minWord (min maxWord n)

/-- The whole part of `significand * 2 ^ exponent`. -/
def wholePart (significand : Nat) (exponent : Int) : Nat :=
  if 0 ≤ exponent then significand * Nat.pow 2 exponent.toNat
  else significand / Nat.pow 2 (-exponent).toNat

/-- A magnitude with its sign. -/
def withSign (negative : Bool) (magnitude : Nat) : Int :=
  if negative then -(magnitude : Int) else magnitude

/-- **The whole part of a double**: the fraction is dropped toward zero and the result clamped to a
signed 64-bit word; what is not a number counts as zero. -/
def truncate (x : Float) : Int :=
  match decode x with
  | .nan => 0
  | .infinite negative => if negative then minWord else maxWord
  | .finite negative significand exponent =>
    clampToWord (withSign negative (wholePart significand exponent))

theorem clampToWord_mem_range (n : Int) : minWord ≤ clampToWord n ∧ clampToWord n ≤ maxWord := by
  simp only [clampToWord, minWord, maxWord]
  omega

theorem clampToWord_of_mem_range {n : Int} (hlo : minWord ≤ n) (hhi : n ≤ maxWord) :
    clampToWord n = n := by
  simp only [clampToWord, minWord, maxWord] at *
  omega

/-- A truncation always fits a signed 64-bit word. -/
theorem truncate_mem_range (x : Float) : minWord ≤ truncate x ∧ truncate x ≤ maxWord := by
  unfold truncate
  split
  · decide
  · split <;> decide
  · exact clampToWord_mem_range _

end PegBox.Binary64
