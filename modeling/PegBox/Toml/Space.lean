/-
**What stands between the parts of a TOML document.**

Blanks separate the parts of a line, newlines end it, and a comment runs from its sign to the end of
the line.  A control character is allowed nowhere but as a tab.

Main definitions:

* `PegBox.Toml.isPlain` — the characters that may stand in a comment;
* `PegBox.Toml.skipBlanks` — the text after its blanks;
* `PegBox.Toml.newline?` — the text after a newline;
* `PegBox.Toml.lineEnd?` — **the text after the end of a line**, a comment included;
* `PegBox.Toml.skipGaps` — the text after blanks, newlines and comments.
-/

set_option autoImplicit false

namespace PegBox.Toml

/-! ### Classes of characters -/

/-- The characters that separate the parts of a line. -/
def isBlank (c : Char) : Bool := c = ' ' || c = '\t'

/-- The characters that may stand in a comment: all but the control characters, the tab apart. -/
def isPlain (c : Char) : Bool := c = '\t' || (' ' ≤ c && c.toNat ≠ 0x7f)

/-! ### Ends of lines -/

/-- The text after its blanks. -/
def skipBlanks (text : List Char) : List Char := text.dropWhile isBlank

/-- The text after the newline at its front: a line feed, with or without a carriage return before
it. -/
def newline? : List Char → Option (List Char)
  | '\n' :: rest => some rest
  | '\r' :: '\n' :: rest => some rest
  | _ => none

/-- The text after the comment at its front, if there is one. -/
def skipComment : List Char → List Char
  | '#' :: rest => rest.dropWhile isPlain
  | text => text

/-- **The text after the end of the line** at its front: blanks, a comment, and then a newline or
the end of the text. -/
def lineEnd? (text : List Char) : Option (List Char) :=
  match skipComment (skipBlanks text) with
  | [] => some []
  | rest => newline? rest

/-! ### Gaps inside a list -/

/-- The text after blanks, newlines and comments; `inComment` says whether the text starts inside a
comment. -/
def skipGapsFrom : Bool → List Char → List Char
  | _, [] => []
  | _, '\n' :: rest => skipGapsFrom false rest
  | _, '\r' :: '\n' :: rest => skipGapsFrom false rest
  | true, c :: rest => if isPlain c then skipGapsFrom true rest else c :: rest
  | false, c :: rest =>
    if isBlank c then skipGapsFrom false rest
    else if c = '#' then skipGapsFrom true rest
    else c :: rest

/-- The text after blanks, newlines and comments. -/
def skipGaps : List Char → List Char := skipGapsFrom false

end PegBox.Toml
