/-
**The wanted form of a structured value.**

A reader of structured values asks for numbers, texts, lists, records and choices.  A record is a
mapping with known fields, none of which stands twice; where a list stands in its place, its items
are the fields in their order.  A choice is one of several names.  Entries and items are looked at
in the order in which they stand, and the first fault is the one reported.

Main definitions:

* `PegBox.Datum.toFloat`, `PegBox.Datum.toWord`, `PegBox.Datum.toByte`, `PegBox.Datum.toText` —
  single values;
* `PegBox.Datum.toList` — a list of values of one form;
* `PegBox.Datum.Record` — the title, the fields and the strictness of a record;
* `PegBox.Datum.Record.read` — **the fields of a record that are present**, in the order in which
  they stand;
* `PegBox.Datum.toChoice` — a choice by its exact name.
-/

import PegBox.Datum.Fault

set_option autoImplicit false

namespace PegBox.Datum

/-! ### Single values -/

/-- A double; a whole number becomes the nearest one. -/
def toFloat : Datum → Except Fault Float
  | .float value => .ok value
  | .integer value => .ok (Float.ofInt value)
  | other => .error (.wrongKind other .float)

/-- A 16-bit word. -/
def toWord : Datum → Except Fault UInt16
  | .integer value =>
    if 0 ≤ value ∧ value < 65536 then .ok (UInt16.ofNat value.toNat)
    else .error (.outOfRange value .word)
  | other => .error (.wrongKind other .word)

/-- A byte. -/
def toByte : Datum → Except Fault UInt8
  | .integer value =>
    if 0 ≤ value ∧ value < 256 then .ok (UInt8.ofNat value.toNat)
    else .error (.outOfRange value .byte)
  | other => .error (.wrongKind other .byte)

/-- A text. -/
def toText : Datum → Except Fault String
  | .text value => .ok value
  | other => .error (.wrongKind other .text)

/-! ### Lists -/

/-- Items of one form, read in order. -/
def readItems {α : Type} (read : Datum → Except Fault α) : List Datum → Except Fault (List α)
  | [] => .ok []
  | item :: rest =>
    match read item with
    | .error fault => .error fault
    | .ok value =>
      match readItems read rest with
      | .error fault => .error fault
      | .ok values => .ok (value :: values)

/-- A list of values of one form. -/
def toList {α : Type} (read : Datum → Except Fault α) (datum : Datum) : Except Fault (List α) :=
  match datum.items? with
  | some items => readItems read items
  | none => .error (.wrongKind datum .sequence)

/-! ### Records -/

/-- What a reader knows of a record before it reads one. -/
structure Record where
  /-- The title shown where something else stands in the place of the record. -/
  title : String
  fields : List String
  /-- Whether entries of other names are refused. -/
  strict : Bool

namespace Record

/-- The known entries of a mapping, read in the order in which they stand; `done` are the fields that
have been read before.  Before its value is looked at, an entry is refused if its field has been read
already; an entry of a name that is not known is skipped, or refused by a strict record. -/
def readEntries {α : Type} (record : Record) (readField : String → Datum → Except Fault α)
    (done : List String) : List (String × Datum) → Except Fault (List (String × α))
  | [] => .ok []
  | (name, item) :: rest =>
    if name ∈ record.fields then
      if name ∈ done then .error (.repeatedField name)
      else
        match readField name item with
        | .error fault => .error fault
        | .ok value =>
          match record.readEntries readField (name :: done) rest with
          | .error fault => .error fault
          | .ok values => .ok ((name, value) :: values)
    else if record.strict then .error (.unknownField name record.fields)
    else record.readEntries readField done rest

/-- The fields of a record from the items of a list, `done` of them being read already; `length` is
the length of the list. -/
def readPositions {α : Type} (record : Record) (readField : String → Datum → Except Fault α)
    (length done : Nat) : List String → List Datum → Except Fault (List (String × α))
  | [], [] => .ok []
  | [], _ :: _ => .error (.tooLong length)
  | _ :: _, [] => .error (.tooShort done record.title record.fields.length)
  | name :: names, item :: items =>
    match readField name item with
    | .error fault => .error fault
    | .ok value =>
      match record.readPositions readField length (done + 1) names items with
      | .error fault => .error fault
      | .ok values => .ok ((name, value) :: values)

/-- **The fields of a record that are present**, from a mapping or from a list. -/
def read {α : Type} (record : Record) (readField : String → Datum → Except Fault α) :
    Datum → Except Fault (List (String × α))
  | .mapping entries => record.readEntries readField [] entries
  | other =>
    match other.items? with
    | some items => record.readPositions readField items.length 0 record.fields items
    | none => .error (.wrongKind other (.record record.title))

end Record

/-- The value of a field that a record needs. -/
def required {α : Type} (name : String) (values : List (String × α)) : Except Fault α :=
  match values.lookup name with
  | some value => .ok value
  | none => .error (.missingField name)

/-! ### Choices -/

/-- The alternative of a name, by the exact name. -/
def choiceOf {α : Type} (choices : List (String × α)) (name : String) : Except Fault α :=
  match choices.lookup name with
  | some choice => .ok choice
  | none => .error (.unknownChoice name (choices.map Prod.fst))

/-- The content of an alternative has to be nothing: null in JSON; an empty table or an empty list
in TOML. -/
def checkNothing : Medium → Datum → Except Fault Unit
  | .json, .null => .ok ()
  | .json, other => .error (.wrongKind other .nothing)
  | .toml, .mapping [] => .ok ()
  | .toml, .mapping (_ :: _) => .error .notEmptyTable
  | .toml, .sequence [] => .ok ()
  | .toml, .sequence (_ :: _) => .error .notEmptyTable
  | .toml, .tables [] => .ok ()
  | .toml, .tables (_ :: _) => .error .notEmptyTables
  | .toml, other => .error (.notTable other)

/-- A choice: a name, or a mapping from one name to nothing. -/
def toChoice {α : Type} (medium : Medium) (choices : List (String × α)) :
    Datum → Except Fault α
  | .text name => choiceOf choices name
  | .mapping [(name, content)] =>
    match choiceOf choices name with
    | .error fault => .error fault
    | .ok choice =>
      match checkNothing medium content with
      | .error fault => .error fault
      | .ok () => .ok choice
  | .mapping entries =>
    match medium with
    | .json => .error .notOneEntry
    | .toml => .error (if entries.isEmpty then .noEntry else .manyEntries)
  | other =>
    match medium with
    | .json => .error (.wrongKind other .choice)
    | .toml => .error .notTextOrTable

/-- A value that may be left out: nothing stands for its absence. -/
def toOptional {α : Type} (read : Datum → Except Fault α) : Datum → Except Fault (Option α)
  | .null => .ok none
  | other =>
    match read other with
    | .error fault => .error fault
    | .ok value => .ok (some value)

end PegBox.Datum
