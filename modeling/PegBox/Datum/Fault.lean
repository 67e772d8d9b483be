/-
**What is wrong with a structured value.**

A structured value that does not have the wanted form is refused with the first fault that is met
when it is read from front to back.  A value of the right form can still be refused by what it
stands for: readings that do not pair up, thresholds for another number of pegs.

Main definitions:

* `PegBox.Datum.Expected` — what was wanted in the place of a value;
* `PegBox.Datum.Fault` — **why a structured value is refused**;
* `PegBox.Datum.Fault.message` — what the operator is told.
-/

import PegBox.Datum
import PegBox.ReadingSet
import PegBox.Thresholds

set_option autoImplicit false

namespace PegBox.Datum

/-- What was wanted in the place of a value. -/
inductive Expected where
  | float
  | word
  | byte
  | sequence
  | text
  | nothing
  | choice
  | record (title : String)
  deriving DecidableEq, Repr

/-- The words for what was wanted. -/
def Expected.words : Expected → String
  | .float => "f64"
  | .word => "u16"
  | .byte => "u8"
  | .sequence => "a sequence"
  | .text => "a string"
  | .nothing => "unit"
  | .choice => "string or map"
  | .record title => "struct " ++ title

/-- **Why a structured value is refused.** -/
inductive Fault where
  | wrongKind (found : Datum) (expected : Expected)
  | outOfRange (found : Int) (expected : Expected)
  | unknownField (name : String) (fields : List String)
  /-- A field stands a second time. -/
  | repeatedField (name : String)
  | missingField (name : String)
  | unknownChoice (name : String) (choices : List String)
  /-- The list ends before the fields of the record do. -/
  | tooShort (length : Nat) (title : String) (size : Nat)
  /-- The list goes on after the fields of the record. -/
  | tooLong (length : Nat)
  /-- A choice is a mapping with another number of entries than one. -/
  | notOneEntry
  | notTextOrTable
  | noEntry
  | manyEntries
  | notTable (found : Datum)
  /-- The content of a choice is a table with entries, or a list with items that is written out. -/
  | notEmptyTable
  /-- The content of a choice is a list of tables with headers. -/
  | notEmptyTables
  | unpaired (fault : InputFault)
  | refused (refusal : ReportError)

/-- A list of names, each quoted, as alternatives. -/
def alternatives : List String → String
  | [] => "nothing"
  | [only] => "`" ++ only ++ "`"
  | [first, second] => "`" ++ first ++ "` or `" ++ second ++ "`"
  | names => "one of " ++ ", ".intercalate (names.map fun name => "`" ++ name ++ "`")

/-- What the operator is told about a fault of a value that arrives from a text format. -/
def Fault.message (medium : Medium) : Fault → String
  | .wrongKind found expected =>
    "invalid type: " ++ found.description medium ++ ", expected " ++ expected.words
  | .outOfRange found expected =>
    "invalid value: " ++ (Datum.integer found).description medium ++ ", expected " ++ expected.words
  | .unknownField name fields => "unknown field `" ++ name ++ "`, expected " ++ alternatives fields
  | .repeatedField name => "duplicate field `" ++ name ++ "`"
  | .missingField name => "missing field `" ++ name ++ "`"
  | .unknownChoice name choices =>
    "unknown variant `" ++ name ++ "`, expected " ++ alternatives choices
  | .tooShort length title size =>
    "invalid length " ++ toString length ++ ", expected " ++ (Expected.record title).words
      ++ " with " ++ toString size ++ (if size = 1 then " element" else " elements")
  | .tooLong length =>
    "invalid length " ++ toString length ++ ", expected fewer elements in array"
  | .notOneEntry => "invalid value: map, expected map with a single key"
  | .notTextOrTable => "wanted string or table"
  | .noEntry => "wanted exactly 1 element, found 0 elements"
  | .manyEntries => "wanted exactly 1 element, more than 1 element"
  | .notTable found => "expected table, found " ++ found.kindWord
  | .notEmptyTable => "expected empty table"
  | .notEmptyTables => "expected empty array"
  | .unpaired fault => fault.message
  | .refused refusal => refusal.message

end PegBox.Datum
