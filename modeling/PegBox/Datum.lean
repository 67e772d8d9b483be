/-
**Structured values.**

Captures, thresholds and configurations travel as structured values: lists and mappings of numbers
and texts.  Such a value arrives from one of two text formats, which differ in a few things that a
reader of values has to know, and in how their numbers are written.

Main definitions:

* `PegBox.Medium` — the text format that a value arrives from;
* `PegBox.Medium.layout` — how numbers of a text format are written;
* `PegBox.Datum` — **a structured value**;
* `PegBox.Datum.ofEntries` — a mapping whose entries are put in the order of their names;
* `PegBox.Datum.items?` — the items of a list;
* `PegBox.Datum.description` — how a value is described to the operator.
-/

import PegBox.Decimal.Layout
import PegBox.Text.Quoted

set_option autoImplicit false

namespace PegBox

/-- The text format that a structured value arrives from. -/
inductive Medium where
  /-- JSON, which has a null and writes a choice with content as a mapping to null. -/
  | json
  /-- TOML, which has dates and writes a choice with content as a table. -/
  | toml
  deriving DecidableEq, Repr

/-- How a number is written where it is described: in TOML its digits always stand in their places;
in JSON only up to sixteen places before the point and four zeros behind it. -/
def Medium.layout : Medium → Decimal.Layout
  | .json => ⟨.toEven, some (-4, 16)⟩
  | .toml => ⟨.up, none⟩

/-- **A structured value.** -/
inductive Datum where
  | null
  | boolean (value : Bool)
  /-- A number written without a point or a power of ten. -/
  | integer (value : Int)
  /-- Any other number. -/
  | float (value : Float)
  | text (value : String)
  | moment
  /-- A list of values that is written out. -/
  | sequence (items : List Datum)
  /-- A list of tables, each of which has a header of its own. -/
  | tables (elements : List Datum)
  | mapping (entries : List (String × Datum))
  deriving Inhabited

namespace Datum

/-! ### Mappings in order -/

/-- Puts an entry where the order of the names wants it, in the place of an entry of the same
name. -/
def insertEntry (entry : String × Datum) : List (String × Datum) → List (String × Datum)
  | [] => [entry]
  | other :: rest =>
    if entry.1 < other.1 then entry :: other :: rest
    else if entry.1 = other.1 then entry :: rest
    else other :: insertEntry entry rest

/-- A mapping whose entries are put in the order of their names; of two entries of one name the
later one counts. -/
def ofEntries (entries : List (String × Datum)) : Datum :=
  .mapping (entries.foldl (fun sorted entry => insertEntry entry sorted) [])

/-! ### Lists -/

/-- The items of a list, however it is written. -/
def items? : Datum → Option (List Datum)
  | .sequence items => some items
  | .tables elements => some elements
  | _ => none

/-! ### Descriptions -/

/-- How a value that has the wrong form is described to the operator. -/
def description (medium : Medium) : Datum → String
  | .null => "null"
  | .boolean value => "boolean `" ++ toString value ++ "`"
  | .integer value => "integer `" ++ toString value ++ "`"
  | .float value => "floating point `" ++ medium.layout.text value ++ "`"
  | .text value => "string " ++ Text.quoted value
  | .moment => "map"
  | .sequence _ | .tables _ => "sequence"
  | .mapping _ => "map"

/-- The word for the kind of a value that stands where TOML wants a table. -/
def kindWord : Datum → String
  | .null => "null"
  | .boolean _ => "boolean"
  | .integer _ => "integer"
  | .float _ => "float"
  | .text _ => "string"
  | .moment => "datetime"
  | .sequence _ | .tables _ => "array"
  | .mapping _ => "table"

end Datum

end PegBox
