/-
**Numbers as the operator types them.**

A reading on the command line is a decimal literal: an optional sign, digits with an optional point
among or beside them, and an optional power of ten; or one of the words for an infinity and for what
is not a number, in any case.

Main definitions:

* `PegBox.Decimal.digitRun` — the digits at the front of a text, and what follows them;
* `PegBox.Decimal.LiteralFault` — why a text is not a number;
* `PegBox.Decimal.floatOfLiteral` — **the double that a text stands for**.
-/

import PegBox.Decimal.Basic

set_option autoImplicit false

namespace PegBox.Decimal

/-! ### Runs of digits -/

/-- The longest run of decimal digits at the front of a text, and what follows it. -/
def digitRun (text : List Char) : List Char × List Char :=
  (text.takeWhile Char.isDigit, text.dropWhile Char.isDigit)

/-- The number that a run of decimal digits stands for. -/
def ofDigits (digits : List Char) : Nat := Nat.ofDigitChars 10 digits 0

/-- The optional sign at the front of a text: whether it is minus, and what follows it. -/
def signOf : List Char → Bool × List Char
  | '-' :: rest => (true, rest)
  | '+' :: rest => (false, rest)
  | text => (false, text)

/-! ### Literals -/

/-- Why a text is not a number. -/
inductive LiteralFault where
  | empty
  | malformed
  deriving DecidableEq, Repr

/-- What the operator is told about a text that is not a number. -/
def LiteralFault.message : LiteralFault → String
  | .empty => "cannot parse float from empty string"
  | .malformed => "invalid float literal"

/-- The power of ten at the end of a literal: nothing, or a letter and a signed number. -/
def exponentOf? : List Char → Option Int
  | [] => some 0
  | letter :: rest =>
    if letter = 'e' ∨ letter = 'E' then
      let (negative, digits) := signOf rest
      if digits ≠ [] ∧ digits.all Char.isDigit then
        some (if negative then -(ofDigits digits : Int) else ofDigits digits)
      else none
    else none

/-- The digits after the point, and what follows them; without a point there are none. -/
def fractionOf : List Char → List Char × List Char
  | '.' :: rest => digitRun rest
  | text => ([], text)

/-- The unsigned number at the whole of a text, with a sign to put in front. -/
def ofUnsigned? (negative : Bool) (text : List Char) : Option Decimal :=
  let (whole, afterWhole) := digitRun text
  let (fraction, afterFraction) := fractionOf afterWhole
  if whole = [] ∧ fraction = [] then none
  else
    (exponentOf? afterFraction).map fun power =>
      ⟨negative, ofDigits (whole ++ fraction), power - fraction.length⟩

/-- The words for what no digits can write, in lower case. -/
def specialOf? (word : List Char) : Option Float :=
  if word = "inf".toList ∨ word = "infinity".toList then some (1 / 0)
  else if word = "nan".toList then some (0 / 0)
  else none

/-- **The double that a text stands for**, or the reason why it stands for none. -/
def floatOfLiteral (text : List Char) : Except LiteralFault Float :=
  if text = [] then .error .empty
  else
    let (negative, unsigned) := signOf text
    match specialOf? (unsigned.map Char.toLower) with
    | some value => .ok (if negative then -value else value)
    | none =>
      match ofUnsigned? negative unsigned with
      | some number => .ok number.toFloat
      | none => .error .malformed

end PegBox.Decimal
