/-
**TOML documents.**

A document is a row of lines: assignments, headers of tables, headers of list elements, and lines
that hold at most a comment.  The assignments before the first header belong to the document itself;
those after a header belong to its table.

Main definitions:

* `PegBox.Toml.Line` — an assignment or a header;
* `PegBox.Toml.lines?` — the lines of a text;
* `PegBox.Toml.Section` — a header with the assignments that follow it;
* `PegBox.Toml.parse` — **the structured value of a text**, where the text is a document;
* `PegBox.Toml.unworded` — what is said of any other text, where no words for it are at hand.
-/

import PegBox.Toml.Value

set_option autoImplicit false

namespace PegBox.Toml

/-! ### Lines -/

/-- The header of a table, or of one more element of a list of tables. -/
structure Header where
  path : KeyPath
  /-- Whether the table is an element of a list. -/
  isElement : Bool

/-- A line of a document that says something. -/
inductive Line where
  | assignment (path : KeyPath) (value : Datum)
  | header (header : Header)

/-- The assignment at the front of a text, and what follows its line. -/
def assignment? (text : List Char) : Option (Line × List Char) :=
  match keyPath? text with
  | some (path, '=' :: afterMark) =>
    match value? (skipBlanks afterMark) with
    | none => none
    | some (value, afterValue) =>
      (lineEnd? afterValue).map fun rest => (.assignment path value, rest)
  | _ => none

/-- The header at the front of a text, from after its first bracket, and what follows its line. -/
def header? (text : List Char) : Option (Line × List Char) :=
  match text with
  | '[' :: inner =>
    match keyPath? inner with
    | some (path, ']' :: ']' :: after) =>
      (lineEnd? after).map fun rest => (.header ⟨path, true⟩, rest)
    | _ => none
  | inner =>
    match keyPath? inner with
    | some (path, ']' :: after) =>
      (lineEnd? after).map fun rest => (.header ⟨path, false⟩, rest)
    | _ => none

/-- The lines of a text, of which there are at most `count`, empty ones included. -/
def linesWithin? : Nat → List Char → Option (List Line)
  | 0, _ => none
  | count + 1, text =>
    match skipBlanks text with
    | [] => some []
    | '[' :: rest =>
      match header? rest with
      | none => none
      | some (line, after) => (linesWithin? count after).map (line :: ·)
    | start =>
      match lineEnd? start with
      | some after => linesWithin? count after
      | none =>
        match assignment? start with
        | none => none
        | some (line, after) => (linesWithin? count after).map (line :: ·)

/-- The lines of a text; a byte order mark at its front does not count. -/
def lines? (text : List Char) : Option (List Line) :=
  let start :=
    match text with
    | '\ufeff' :: rest => rest
    | _ => text
  linesWithin? (start.length + 1) start

/-! ### Sections -/

/-- A header with the assignments that follow it. -/
structure Section where
  header : Header
  assignments : List (KeyPath × Datum)

/-- The assignments before the first header, and the sections. -/
def sections : List Line → List (KeyPath × Datum) × List Section
  | [] => ([], [])
  | .assignment path value :: rest =>
    let (assignments, later) := sections rest
    ((path, value) :: assignments, later)
  | .header header :: rest =>
    let (assignments, later) := sections rest
    ([], ⟨header, assignments⟩ :: later)

/-- Adds a section to the tables of a document. -/
def addSection (part : Section) : Entries → Option Entries :=
  let add := if part.header.isElement then addElement else addTable
  changeWithin (add part.assignments part.header.path.name) part.header.path.tables

/-- Adds sections one after the other. -/
def addSections : List Section → Entries → Option Entries
  | [], entries => some entries
  | part :: rest, entries =>
    match addSection part entries with
    | none => none
    | some grown => addSections rest grown

/-! ### Documents -/

/-- **The structured value of a text**, where the text is a document. -/
def parse (text : String) : Option Datum :=
  match lines? text.toList with
  | none => none
  | some lines =>
    let (assignments, parts) := sections lines
    match assignAll assignments [] with
    | none => none
    | some root => (addSections parts root).map toDatum

/-- A mark that stands for the words in which a reader tells why a text is no document. -/
def unworded (_text : String) : String := "<toml syntax>"

end PegBox.Toml
