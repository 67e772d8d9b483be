/-
**Texts quoted in messages.**

A message quotes a text between double quotes and shows every character of it: quotes, backslashes
and the common controls by a backslash and a letter, any other hidden character by its code point.

Main definitions:

* `PegBox.Text.hexadecimal` — a number in lower-case hexadecimal digits;
* `PegBox.Text.shown` — how one character is shown;
* `PegBox.Text.quoted` — **the quoted text**.
-/

import PegBox.Text.Hidden

set_option autoImplicit false

namespace PegBox.Text

/-- A number in lower-case hexadecimal digits. -/
def hexadecimal (n : Nat) : List Char := Nat.toDigits 16 n

/-- How one character is shown inside a quoted text. -/
def shown (c : Char) : List Char :=
  if c = Char.ofNat 0 then ['\\', '0']
  else if c = '\t' then ['\\', 't']
  else if c = '\r' then ['\\', 'r']
  else if c = '\n' then ['\\', 'n']
  else if c = '\\' then ['\\', '\\']
  else if c = '"' then ['\\', '"']
  else if isHidden c then "\\u\x7b".toList ++ hexadecimal c.toNat ++ "\x7d".toList
  else [c]

/-- **The quoted text.** -/
def quoted (text : String) : String :=
  String.ofList ('"' :: text.toList.flatMap shown ++ ['"'])

end PegBox.Text
