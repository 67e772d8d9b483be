/-
**Values of a TOML document.**

A value is a quoted text, a truth value, a number, a date, a list or an inline table.  A list may be
spread over lines and may end in a comma; an inline table stands on one line and may not.  Lists and
inline tables hold values again, down to a certain depth.

Main definitions:

* `PegBox.Toml.listItems?` — the items of a list, by a reader of items;
* `PegBox.Toml.inlineEntries?` — the assignments of an inline table, by a reader of values;
* `PegBox.Toml.scalar?` — a value that holds no other;
* `PegBox.Toml.value?` — **a value at the front of a document**, and what follows it.
-/

import PegBox.Toml.Moment
import PegBox.Toml.Number
import PegBox.Toml.Table

set_option autoImplicit false

namespace PegBox.Toml

/-- A reader of values: the value at the front of a text, and what follows it. -/
abbrev ValueReader := List Char → Option (Datum × List Char)

/-! ### Values that hold values -/

/-- The items of a list, from after its opening bracket or a comma, and what follows the closing
bracket; there are at most `count` of them. -/
def listItems? (read : ValueReader) : Nat → List Char → Option (List Datum × List Char)
  | 0, _ => none
  | count + 1, text =>
    match skipGaps text with
    | ']' :: rest => some ([], rest)
    | start =>
      match read start with
      | none => none
      | some (item, afterItem) =>
        match skipGaps afterItem with
        | ']' :: rest => some ([item], rest)
        | ',' :: rest => (listItems? read count rest).map fun (items, final) => (item :: items, final)
        | _ => none

/-- The assignments of an inline table, from after its opening brace or a comma, and what follows
the closing brace; there are at most `count` of them. -/
def inlineEntries? (read : ValueReader) :
    Nat → List Char → Option (List (KeyPath × Datum) × List Char)
  | 0, _ => none
  | count + 1, text =>
    match keyPath? text with
    | some (path, '=' :: afterMark) =>
      match read (skipBlanks afterMark) with
      | none => none
      | some (value, afterValue) =>
        match skipBlanks afterValue with
        | '\x7d' :: rest => some ([(path, value)], rest)
        | ',' :: rest =>
          (inlineEntries? read count rest).map fun (entries, final) =>
            ((path, value) :: entries, final)
        | _ => none
    | _ => none

/-- An inline table, from after its opening brace, and what follows it. -/
def inlineTable? (read : ValueReader) (text : List Char) : Option (Datum × List Char) :=
  match skipBlanks text with
  | '\x7d' :: rest => some (.mapping [], rest)
  | start =>
    match inlineEntries? read start.length start with
    | none => none
    | some (assignments, rest) =>
      (assignAll assignments []).map fun entries => (toDatum entries, rest)

/-! ### Values -/

/-- What follows a word at the front of a text. -/
def afterWord? : List Char → List Char → Option (List Char)
  | [], text => some text
  | _ :: _, [] => none
  | wanted :: word, c :: text => if c = wanted then afterWord? word text else none

/-- A date or a number, whichever it is. -/
def momentOrNumber? (text : List Char) : Option (Datum × List Char) :=
  match moment text with
  | .whole rest => some (.moment, rest)
  | .broken => none
  | .absent => number? text

/-- A value that holds no other, and what follows it. -/
def scalar? (text : List Char) : Option (Datum × List Char) :=
  match text with
  | [] => none
  | c :: _ =>
    if c = '"' ∨ c = apostrophe then
      (quoted? text).map fun (content, rest) => (.text (String.ofList content), rest)
    else if c = 't' then (afterWord? "true".toList text).map fun rest => (.boolean true, rest)
    else if c = 'f' then (afterWord? "false".toList text).map fun rest => (.boolean false, rest)
    else if c = '+' ∨ c = '-' ∨ c.isDigit then momentOrNumber? text
    else (specialOf? text).map fun (value, rest) => (.float value, rest)

/-- Lists and inline tables stand inside each other fewer times than this. -/
def nestingLimit : Nat := 80

/-- A value in which lists and inline tables stand inside each other at most `depth` times, and what
follows it. -/
def valueWithin? : Nat → ValueReader
  | depth, '[' :: rest =>
    match depth with
    | 0 => none
    | inner + 1 =>
      (listItems? (valueWithin? inner) (rest.length + 1) rest).map
        fun (items, final) => (.sequence items, final)
  | depth, '\x7b' :: rest =>
    match depth with
    | 0 => none
    | inner + 1 => inlineTable? (valueWithin? inner) rest
  | _, text => scalar? text

/-- **A value at the front of a document**, and what follows it. -/
def value? : ValueReader := valueWithin? (nestingLimit - 1)

end PegBox.Toml
