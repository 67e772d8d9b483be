/-
**Numbers of a TOML document.**

A whole number is written in decimal, with an optional sign and without leading zeros, or after a
mark in hexadecimal, octal or binary; it fits a signed 64-bit word.  Any other number has a point, a
power of ten or both, or is one of the words for an infinity and for what is not a number.  One
underscore may stand between two digits.

Main definitions:

* `PegBox.Toml.digitGroup` — digits with underscores between them;
* `PegBox.Toml.decimalWhole?`, `PegBox.Toml.fraction?`, `PegBox.Toml.power?` — the parts of a
  number;
* `PegBox.Toml.number?` — **a number at the front of a document**, and what follows it.
-/

import PegBox.Decimal.Literal
import PegBox.Toml.Quoted
import PegBox.Datum

set_option autoImplicit false

namespace PegBox.Toml

/-! ### Digits -/

/-- The digits that follow a digit, an underscore being allowed before each, and what follows them;
an underscore without a digit after it breaks the number. -/
def digitGroup (isDigit : Char → Bool) : List Char → Option (List Char × List Char)
  | '_' :: c :: rest => if isDigit c then push c (digitGroup isDigit rest) else none
  | '_' :: [] => none
  | c :: rest => if isDigit c then push c (digitGroup isDigit rest) else some ([], c :: rest)
  | [] => some ([], [])

/-- At least one digit, with underscores between them, and what follows. -/
def digits? (isDigit : Char → Bool) : List Char → Option (List Char × List Char)
  | c :: rest => if isDigit c then push c (digitGroup isDigit rest) else none
  | [] => none

/-- The digits of a whole number in decimal, and what follows: a leading zero stands alone. -/
def decimalWhole? : List Char → Option (List Char × List Char)
  | c :: rest => if c = '0' then some ([c], rest) else digits? Char.isDigit (c :: rest)
  | [] => none

/-- The digits after a point, if there is one, and what follows. -/
def fraction? : List Char → Option (List Char × List Char)
  | '.' :: rest => digits? Char.isDigit rest
  | text => some ([], text)

/-- The power of ten, if there is one, and what follows. -/
def power? : List Char → Option (Option Int × List Char)
  | c :: rest =>
    if c = 'e' ∨ c = 'E' then
      let (negative, unsigned) := Decimal.signOf rest
      (digits? Char.isDigit unsigned).map fun (digits, after) =>
        let magnitude : Int := Decimal.ofDigits digits
        (some (if negative then -magnitude else magnitude), after)
    else some (none, c :: rest)
  | [] => some (none, [])

/-! ### Whole numbers -/

/-- The number that digits stand for in a base. -/
def ofBase (base : Nat) (digits : List Char) : Nat :=
  digits.foldl (fun value c => base * value + (hexValue? c).getD 0) 0

/-- A whole number that fits a signed 64-bit word. -/
def wholeDatum? (n : Int) : Option Datum :=
  if Binary64.minWord ≤ n ∧ n ≤ Binary64.maxWord then some (.integer n) else none

/-- The base that a letter after a zero stands for. -/
def baseOf? (c : Char) : Option Nat :=
  if c = 'x' then some 16 else if c = 'o' then some 8 else if c = 'b' then some 2 else none

/-- Whether a character is a digit in a base. -/
def isDigitIn (base : Nat) (c : Char) : Bool :=
  match hexValue? c with
  | some value => value < base
  | none => false

/-- A whole number in another base than ten, from after its mark, and what follows. -/
def basedNumber? (base : Nat) (text : List Char) : Option (Datum × List Char) :=
  match digits? (isDigitIn base) text with
  | none => none
  | some (digits, rest) => (wholeDatum? (ofBase base digits)).map fun datum => (datum, rest)

/-! ### Numbers -/

/-- The words for what no digits can write. -/
def specialOf? : List Char → Option (Float × List Char)
  | 'i' :: 'n' :: 'f' :: rest => some (1 / 0, rest)
  | 'n' :: 'a' :: 'n' :: rest => some (0 / 0, rest)
  | _ => none

/-- A double that is not beyond every number; below every number it may be. -/
def floatDatum? (number : Decimal) : Option Datum :=
  let value := number.toFloat
  if Binary64.decode value = .infinite false then none else some (.float value)

/-- A number in decimal, with its sign read already, and what follows. -/
def decimalNumber? (negative : Bool) (text : List Char) : Option (Datum × List Char) :=
  match decimalWhole? text with
  | none => none
  | some (whole, afterWhole) =>
    match fraction? afterWhole with
    | none => none
    | some (fraction, afterFraction) =>
      match power? afterFraction with
      | none => none
      | some (power, rest) =>
        if fraction = [] ∧ power = none then
          let magnitude : Int := Decimal.ofDigits whole
          (wholeDatum? (if negative then -magnitude else magnitude)).map fun datum => (datum, rest)
        else
          let exponent := power.getD 0 - fraction.length
          (floatDatum? ⟨negative, Decimal.ofDigits (whole ++ fraction), exponent⟩).map
            fun datum => (datum, rest)

/-- **A number at the front of a document**, and what follows it. -/
def number? (text : List Char) : Option (Datum × List Char) :=
  let (negative, unsigned) := Decimal.signOf text
  match specialOf? unsigned with
  | some (value, rest) => some (.float (if negative then -value else value), rest)
  | none =>
    match text with
    | '0' :: letter :: rest =>
      match baseOf? letter with
      | some base => basedNumber? base rest
      | none => decimalNumber? negative unsigned
    | _ => decimalNumber? negative unsigned

end PegBox.Toml
