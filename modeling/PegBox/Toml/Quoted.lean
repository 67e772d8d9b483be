/-
**Quoted texts of a TOML document.**

A text is quoted by double quotes, where a backslash starts an escape, or by single quotes, where
every character stands for itself.  Three quotes in a row open a text of several lines: its first
newline does not count, each other one counts as a line feed, and up to two quotes may stand before
the three that close it.

Main definitions:

* `PegBox.Toml.Stance` — where the reader of a quoted text stands;
* `PegBox.Toml.escapeOf?` — the character that a one-letter escape stands for;
* `PegBox.Toml.basicLine`, `PegBox.Toml.literalLine` — texts of one line;
* `PegBox.Toml.basicLines`, `PegBox.Toml.literalLines` — texts of several lines;
* `PegBox.Toml.quoted?` — **a quoted text of any kind** at the front of a document.
-/

import PegBox.Toml.Space

set_option autoImplicit false

namespace PegBox.Toml

/-! ### Characters and escapes -/

/-- The single quote. -/
def apostrophe : Char := Char.ofNat 39

/-- Where the reader of a quoted text stands. -/
inductive Stance where
  | plain
  | escape
  /-- Inside a code point, `left` digits before its end. -/
  | code (left value : Nat)
  /-- After a backslash and blanks, before the newline that has to follow. -/
  | tail
  /-- After a backslash at the end of a line, among blanks and newlines that do not count. -/
  | gap

/-- The value of a hexadecimal digit. -/
def hexValue? (c : Char) : Option Nat :=
  if '0' ≤ c ∧ c ≤ '9' then some (c.toNat - '0'.toNat)
  else if 'a' ≤ c ∧ c ≤ 'f' then some (c.toNat - 'a'.toNat + 10)
  else if 'A' ≤ c ∧ c ≤ 'F' then some (c.toNat - 'A'.toNat + 10)
  else none

/-- The character that a one-letter escape stands for. -/
def escapeOf? (c : Char) : Option Char :=
  if c = 'b' then some (Char.ofNat 8)
  else if c = 't' then some '\t'
  else if c = 'n' then some '\n'
  else if c = 'f' then some (Char.ofNat 12)
  else if c = 'r' then some '\r'
  else if c = '"' then some '"'
  else if c = '\\' then some '\\'
  else none

/-- How many digits a code point has after its letter. -/
def codeDigits? (c : Char) : Option Nat :=
  if c = 'u' then some 4 else if c = 'U' then some 8 else none

/-- The character of a code point, where it has one. -/
def charOf? (code : Nat) : Option Char :=
  if code.isValidChar then some (Char.ofNat code) else none

/-- Puts a character in front of what is read after it. -/
def push (c : Char) (read : Option (List Char × List Char)) : Option (List Char × List Char) :=
  read.map fun (content, rest) => (c :: content, rest)

/-! ### Texts of one line -/

/-- The content of a text in double quotes, from after the opening quote, and what follows the
closing one. -/
def basicLine : Stance → List Char → Option (List Char × List Char)
  | .plain, c :: rest =>
    if c = '"' then some ([], rest)
    else if c = '\\' then basicLine .escape rest
    else if isPlain c then push c (basicLine .plain rest)
    else none
  | .escape, c :: rest =>
    match escapeOf? c, codeDigits? c with
    | some escaped, _ => push escaped (basicLine .plain rest)
    | none, some digits => basicLine (.code digits 0) rest
    | none, none => none
  | .code left value, c :: rest =>
    match hexValue? c with
    | none => none
    | some digit =>
      if left ≤ 1 then
        match charOf? (16 * value + digit) with
        | none => none
        | some coded => push coded (basicLine .plain rest)
      else basicLine (.code (left - 1) (16 * value + digit)) rest
  | _, _ => none

/-- The content of a text in single quotes, from after the opening quote, and what follows the
closing one. -/
def literalLine : List Char → Option (List Char × List Char)
  | [] => none
  | c :: rest =>
    if c = apostrophe then some ([], rest)
    else if isPlain c then push c (literalLine rest)
    else none

/-! ### Texts of several lines -/

/-- What the closing quotes of a text of several lines leave to its content, and what follows them:
three quotes are gone already, and up to two more belong to the content. -/
def closing (quote : Char) : List Char → List Char × List Char
  | first :: second :: rest =>
    if first = quote then
      if second = quote then ([quote, quote], rest) else ([quote], second :: rest)
    else ([], first :: second :: rest)
  | [first] => if first = quote then ([quote], []) else ([], [first])
  | [] => ([], [])

/-- What follows three quotes at the front of a text. -/
def afterThree? (quote : Char) : List Char → Option (List Char)
  | first :: second :: third :: rest =>
    if first = quote ∧ second = quote ∧ third = quote then some rest else none
  | _ => none

/-- The text after a newline at its front, or the text itself. -/
def dropNewline (text : List Char) : List Char := (newline? text).getD text

/-- How much is left to be read: leaving a gap takes a step without a character. -/
def Stance.measure (stance : Stance) (text : List Char) : Nat :=
  match stance with
  | .gap => 2 * text.length + 1
  | _ => 2 * text.length

/-- The content of a text of several lines in double quotes, and what follows it. -/
def basicLines : Stance → List Char → Option (List Char × List Char)
  | .plain, '\r' :: '\n' :: rest => push '\n' (basicLines .plain rest)
  | .plain, c :: rest =>
    match afterThree? '"' (c :: rest) with
    | some after => some (closing '"' after)
    | none =>
      if c = '\\' then basicLines .escape rest
      else if isPlain c ∨ c = '\n' then push c (basicLines .plain rest)
      else none
  | .escape, '\r' :: '\n' :: rest => basicLines .gap rest
  | .escape, c :: rest =>
    if c = '\n' then basicLines .gap rest
    else if isBlank c then basicLines .tail rest
    else
      match escapeOf? c, codeDigits? c with
      | some escaped, _ => push escaped (basicLines .plain rest)
      | none, some digits => basicLines (.code digits 0) rest
      | none, none => none
  | .code left value, c :: rest =>
    match hexValue? c with
    | none => none
    | some digit =>
      if left ≤ 1 then
        match charOf? (16 * value + digit) with
        | none => none
        | some coded => push coded (basicLines .plain rest)
      else basicLines (.code (left - 1) (16 * value + digit)) rest
  | .tail, '\r' :: '\n' :: rest => basicLines .gap rest
  | .tail, c :: rest =>
    if c = '\n' then basicLines .gap rest
    else if isBlank c then basicLines .tail rest
    else none
  | .gap, '\r' :: '\n' :: rest => basicLines .gap rest
  | .gap, c :: rest =>
    if c = '\n' ∨ isBlank c then basicLines .gap rest else basicLines .plain (c :: rest)
  | _, [] => none
termination_by stance text => stance.measure text
decreasing_by all_goals simp [Stance.measure]; try omega

/-- The content of a text of several lines in single quotes, and what follows it. -/
def literalLines : List Char → Option (List Char × List Char)
  | [] => none
  | '\r' :: '\n' :: rest => push '\n' (literalLines rest)
  | c :: rest =>
    match afterThree? apostrophe (c :: rest) with
    | some after => some (closing apostrophe after)
    | none => if isPlain c ∨ c = '\n' then push c (literalLines rest) else none

/-! ### Quoted texts -/

/-- **A quoted text at the front of a document**, and what follows it. -/
def quoted? (text : List Char) : Option (List Char × List Char) :=
  match afterThree? '"' text, afterThree? apostrophe text with
  | some rest, _ => basicLines .plain (dropNewline rest)
  | none, some rest => literalLines (dropNewline rest)
  | none, none =>
    match text with
    | [] => none
    | c :: rest =>
      if c = '"' then basicLine .plain rest
      else if c = apostrophe then literalLine rest
      else none

end PegBox.Toml
