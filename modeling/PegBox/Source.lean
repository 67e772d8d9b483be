/-
**Where readings come from.**

Readings come from a bench capture, from the command line, or from a file.  A readings file is a
TOML document with the two captures and nothing else; what its text is found to be is kept apart
from what is wrong with the readings in it.  Why a text is no document at all, a reader of TOML tells
in words of its own; the fault keeps the text, and its message takes the words for it.

Main definitions:

* `PegBox.DocumentFault` — what is wrong with a document;
* `PegBox.readDocument` — a value from the text of a document;
* `PegBox.SourceError` — why a source gives no readings;
* `PegBox.loadReadingsFile` — the readings of a file;
* `PegBox.Source` — **a source of readings**;
* `PegBox.Source.load`, `PegBox.Source.describe` — its readings, and how it is called.
-/

import PegBox.Datum.Forms
import PegBox.Files
import PegBox.Toml.Document

set_option autoImplicit false

namespace PegBox

/-! ### Documents -/

/-- What is wrong with a document. -/
inductive DocumentFault where
  /-- The text is no document. -/
  | notDocument (text : String)
  | misshapen (fault : Datum.Fault)
  | other (words : String)

/-- What the operator is told about a document; `syntaxWords` are the words of the reader of TOML for
a text that is no document. -/
def DocumentFault.message (fault : DocumentFault)
    (syntaxWords : String → String := Toml.unworded) : String :=
  match fault with
  | .notDocument text => syntaxWords text
  | .misshapen fault => fault.message .toml
  | .other words => words

/-- A value from the text of a document, by the reader of its form. -/
def readDocument {α : Type} (read : Datum → Except Datum.Fault α) (text : String) :
    Except DocumentFault α :=
  match Toml.parse text with
  | none => .error (.notDocument text)
  | some datum =>
    match read datum with
    | .error fault => .error (.misshapen fault)
    | .ok value => .ok value

/-! ### Sources of readings -/

/-- Why a source gives no readings. -/
inductive SourceError where
  | invalid (fault : InputFault)
  | unreadable (origin : String) (fault : ReadFault)
  | malformed (origin : String) (fault : DocumentFault)

/-- What the operator is told about a source that gives no readings. -/
def SourceError.message (error : SourceError)
    (syntaxWords : String → String := Toml.unworded) : String :=
  match error with
  | .invalid fault => fault.message
  | .unreadable origin fault => "failed to read " ++ origin ++ ": " ++ fault.message
  | .malformed origin fault =>
    "malformed readings in " ++ origin ++ ": " ++ fault.message syntaxWords

/-- The readings of a file. -/
def loadReadingsFile (files : Files) (path : String) : Except SourceError ReadingSet :=
  match files.readText path with
  | .error fault => .error (.unreadable path fault)
  | .ok text =>
    match readDocument (ReadingSet.capturesOf ReadingSet.strictRecord) text with
    | .error fault => .error (.malformed path fault)
    | .ok (highs, lows) =>
      match ReadingSet.ofLists highs lows with
      | .error fault => .error (.invalid fault)
      | .ok set => .ok set

/-- **A source of readings.** -/
inductive Source where
  | preset (capture : Preset)
  | inline (set : ReadingSet)
  | file (path : String)
  deriving DecidableEq

namespace Source

/-- How a source is called. -/
def describe : Source → String
  | .preset capture => capture.name
  | .inline _ => "inline"
  | .file path => path

/-- The readings of a source. -/
def load (files : Files) : Source → Except SourceError ReadingSet
  | .preset capture =>
    match capture.readings with
    | .error fault => .error (.invalid fault)
    | .ok set => .ok set
  | .inline set => .ok set
  | .file path => loadReadingsFile files path

end Source

end PegBox
