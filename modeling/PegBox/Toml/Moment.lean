/-
**Dates and times of a TOML document.**

A date is a year, a month and a day of the calendar; a time is an hour, a minute and a second with
an optional fraction; both can stand together, and then an offset may follow.  A text that starts
like a date or a time but goes on differently may still be a number, up to a certain character; from
there on it has to be a date or a time.

Main definitions:

* `PegBox.Toml.Found` — whether something is at the front of a text;
* `PegBox.Toml.date`, `PegBox.Toml.time`, `PegBox.Toml.offset` — the parts;
* `PegBox.Toml.moment` — **a date, a time or both** at the front of a text.
-/

import PegBox.Toml.Space

set_option autoImplicit false

namespace PegBox.Toml

/-- Whether something is at the front of a text. -/
inductive Found where
  /-- It is not; something else may be. -/
  | absent
  /-- It has begun, but it is broken. -/
  | broken
  | whole (rest : List Char)

/-- Looks for something that has to follow; without it, what went before is broken. -/
def Found.committed : Found → Found
  | .absent => .broken
  | other => other

/-- Goes on after something that was found. -/
def Found.andThen (found : Found) (next : List Char → Found) : Found :=
  match found with
  | .whole rest => next rest
  | other => other

/-! ### Numbers of fixed width -/

/-- A number of exactly `width` digits at the front of a text, and what follows it. -/
def fixedNumber? (width : Nat) (text : List Char) : Option (Nat × List Char) :=
  let digits := text.take width
  if digits.length = width ∧ digits.all Char.isDigit then
    some (Nat.ofDigitChars 10 digits 0, text.drop width)
  else none

/-- A number of two digits between two bounds. -/
def twoDigits (low high : Nat) (text : List Char) : Found :=
  match fixedNumber? 2 text with
  | some (n, rest) => if low ≤ n ∧ n ≤ high then .whole rest else .absent
  | none => .absent

/-- One character that has to be at the front of a text. -/
def mark (wanted : Char) : List Char → Found
  | c :: rest => if c = wanted then .whole rest else .absent
  | [] => .absent

/-! ### Dates -/

/-- Whether a year has a leap day. -/
def isLeapYear (year : Nat) : Bool := year % 4 = 0 && (year % 100 ≠ 0 || year % 400 = 0)

/-- How many days a month has. -/
def daysIn (year month : Nat) : Nat :=
  if month = 2 then (if isLeapYear year then 29 else 28)
  else if month = 4 ∨ month = 6 ∨ month = 9 ∨ month = 11 then 30
  else 31

/-- A day of the calendar, in four, two and two digits.  After the first dash nothing but a date can
follow. -/
def date (text : List Char) : Found :=
  match fixedNumber? 4 text with
  | none => .absent
  | some (year, afterYear) =>
    (mark '-' afterYear).andThen fun text =>
      match fixedNumber? 2 text with
      | none => .broken
      | some (month, afterMonth) =>
        if month < 1 ∨ 12 < month then .broken
        else
          (mark '-' afterMonth).committed.andThen fun text =>
            (twoDigits 1 (daysIn year month) text).committed

/-! ### Times -/

/-- The fraction of a second at the front of a text, if there is one, is skipped. -/
def skipFraction : List Char → List Char
  | '.' :: c :: rest => if c.isDigit then rest.dropWhile Char.isDigit else '.' :: c :: rest
  | text => text

/-- A time of the day; the second may be a leap second.  After the first colon nothing but a time
can follow. -/
def time (text : List Char) : Found :=
  (twoDigits 0 23 text).andThen fun text =>
    (mark ':' text).andThen fun text =>
      (twoDigits 0 59 text).committed.andThen fun text =>
        (mark ':' text).committed.andThen fun text =>
          (twoDigits 0 60 text).committed.andThen fun text => .whole (skipFraction text)

/-- The distance from universal time, if there is one. -/
def offset : List Char → Found
  | [] => .whole []
  | c :: rest =>
    if c = 'Z' ∨ c = 'z' then .whole rest
    else if c = '+' ∨ c = '-' then
      (twoDigits 0 23 rest).committed.andThen fun text =>
        (mark ':' text).committed.andThen fun text => (twoDigits 0 59 text).committed
    else .whole (c :: rest)

/-- The time that follows a date, if there is one, with its offset. -/
def timeAfterDate : List Char → Found
  | [] => .whole []
  | c :: rest =>
    if c = 'T' ∨ c = 't' ∨ c = ' ' then
      match time rest with
      | .absent => .whole (c :: rest)
      | .broken => .broken
      | .whole after => offset after
    else .whole (c :: rest)

/-- **A date, a time or both** at the front of a text. -/
def moment (text : List Char) : Found :=
  match date text with
  | .whole rest => timeAfterDate rest
  | .broken => .broken
  | .absent => time text

end PegBox.Toml
