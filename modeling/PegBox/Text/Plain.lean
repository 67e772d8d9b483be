/-
**Texts without terminal controls.**

A text for a terminal holds control characters, and control sequences that begin with an escape
character: a short one ends with its first letter or digit, a parametrised one with a letter behind
its parameters, a command with a bell, a string with a terminator.  A device string has a header
before the string itself, in which a terminator means nothing.  Where a text does not go to a
terminal all of this is left out, and what is left is plain: visible characters and blanks.

Main definitions:

* `PegBox.Text.isBlankControl`, `PegBox.Text.isPlain` — the characters that are kept;
* `PegBox.Text.Sequence` — the part of a control sequence that a character stands in;
* `PegBox.Text.plain` — **the text without terminal controls**.
-/

set_option autoImplicit false

namespace PegBox.Text

/-! ### Characters -/

/-- The control characters that are blanks: tabulator, line feed, form feed and carriage return. -/
def isBlankControl (c : Char) : Bool :=
  c = '\t' || c = '\n' || c = '\x0c' || c = '\r'

/-- Whether a character outside of control sequences is kept. -/
def isPlain (c : Char) : Bool :=
  isBlankControl c || (' ' ≤ c && c ≠ '\x7f')

/-- Whether a character ends a string: one of its bytes is the string terminator. -/
def endsString (c : Char) : Bool :=
  (String.singleton c).toUTF8.toList.contains 0x9c

/-! ### Control sequences -/

/-- The part of a control sequence that a character stands in. -/
inductive Sequence where
  | outside
  | escape
  /-- Behind the escape character and a mark. -/
  | mark
  /-- In the parameters of a parametrised sequence. -/
  | parameters
  | command
  /-- At the front of a device string. -/
  | device
  /-- In the parameters of a device string. -/
  | deviceParameters
  /-- Behind a mark in the header of a device string. -/
  | deviceMark
  | string
  deriving DecidableEq, Repr

namespace Sequence

/-- What follows an escape character and one more character. -/
def afterEscape (c : Char) : Sequence :=
  if ' ' ≤ c ∧ c ≤ '/' then .mark
  else if c = '[' then .parameters
  else if c = ']' then .command
  else if c = 'P' then .device
  else if c = 'X' ∨ c = '^' ∨ c = '_' then .string
  else if '0' ≤ c ∧ c ≤ '~' then .outside
  else .escape

/-- What follows one more character of the header of a device string that is no parameter, or one
out of place: a mark, or the string itself; other characters leave the header where it is. -/
def inDevice (part : Sequence) (c : Char) : Sequence :=
  if ' ' ≤ c ∧ c ≤ '/' then .deviceMark
  else if '0' ≤ c ∧ c ≤ '~' then .string
  else part

/-- The part of a control sequence behind one more character.  An escape character begins a new one
everywhere; cancel and substitute end any. -/
def next (part : Sequence) (c : Char) : Sequence :=
  if c = '\x1b' then .escape
  else if c = '\x18' ∨ c = '\x1a' then .outside
  else
    match part with
    | .outside => .outside
    | .escape => afterEscape c
    | .mark => if '0' ≤ c ∧ c ≤ '~' then .outside else .mark
    | .parameters => if '@' ≤ c ∧ c ≤ '~' then .outside else .parameters
    | .command => if c = '\x07' then .outside else .command
    | .device => if '0' ≤ c ∧ c ≤ '?' then .deviceParameters else inDevice .device c
    | .deviceParameters =>
      if '0' ≤ c ∧ c ≤ ';' then .deviceParameters else inDevice .deviceParameters c
    | .deviceMark => inDevice .deviceMark c
    | .string => if endsString c then .outside else .string

/-- Whether a character in a part of a control sequence is kept: blanks are, but for commands and
strings. -/
def keeps (part : Sequence) (c : Char) : Bool :=
  match part with
  | .outside => isPlain c
  | .escape | .mark | .parameters => isBlankControl c
  | .command | .device | .deviceParameters | .deviceMark | .string => false

end Sequence

/-! ### Texts -/

/-- What is left of a suspended sequence behind a character that is kept: one beyond ASCII ends
it. -/
def Sequence.resumed (part : Sequence) (c : Char) : Sequence :=
  if c.toNat < 128 then part else .outside

/-- The characters that are kept from a part of a control sequence on.  A blank inside a sequence
suspends it: characters are kept as outside of it up to the next control character, which goes on
with what is left of the sequence. -/
def plainFrom (part : Sequence) (suspended : Bool) : List Char → List Char
  | [] => []
  | c :: rest =>
    if suspended && isPlain c then c :: plainFrom (part.resumed c) true rest
    else if part.keeps c then c :: plainFrom (part.next c) true rest
    else plainFrom (part.next c) false rest

/-- **The text without terminal controls.** -/
def plain (text : String) : String := String.ofList (plainFrom .outside false text.toList)

end PegBox.Text
