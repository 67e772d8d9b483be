/-
**Tables of a TOML document.**

The tables of a document grow while it is read.  A table can be stated by a header of its own,
implied by a longer header, or made by a key with dots; what it is decides who may still add to it.
A value that is written out, an inline table among them, is closed.

Main definitions:

* `PegBox.Toml.Standing` — how a table came to be;
* `PegBox.Toml.Item` — what a name in a table stands for;
* `PegBox.Toml.assign` — **an assignment**, through the tables of a key with dots;
* `PegBox.Toml.addTable`, `PegBox.Toml.addElement` — **the table of a header**, and one more element
  of a list of tables;
* `PegBox.Toml.Item.toDatum`, `PegBox.Toml.toDatum` — the structured value of a table.
-/

import PegBox.Datum
import PegBox.Toml.Key

set_option autoImplicit false

namespace PegBox.Toml

/-- How a table came to be. -/
inductive Standing where
  /-- By a header of its own. -/
  | stated
  /-- On the way of a longer header. -/
  | implied
  /-- On the way of a key with dots. -/
  | dotted
  deriving DecidableEq, Repr

/-- What a name in a table stands for. -/
inductive Item where
  | leaf (value : Datum)
  | table (standing : Standing) (entries : List (String × Item))
  /-- A list of tables, the last of which may still grow. -/
  | tables (elements : List (List (String × Item)))

/-- The names of a table with what they stand for, in the order in which they stand. -/
abbrev Entries := List (String × Item)

/-! ### Names in a table -/

/-- Puts an item in the place of the one that a name stands for. -/
def replace (name : String) (item : Item) : Entries → Entries
  | [] => []
  | (other, old) :: rest =>
    if other = name then (other, item) :: rest else (other, old) :: replace name item rest

/-- Takes a name out of a table. -/
def remove (name : String) (entries : Entries) : Entries :=
  entries.filter fun entry => entry.1 ≠ name

/-- Changes the last element of a list, which must not be empty. -/
def changeLast? {α : Type} (change : α → Option α) : List α → Option (List α)
  | [] => none
  | [last] => (change last).map fun changed => [changed]
  | first :: rest => (changeLast? change rest).map (first :: ·)

/-! ### Assignments -/

/-- **An assignment**: the value gets a name that is new in its table.  The tables on the way are
made where they are missing.  A stated table is closed to keys with dots, and the table that holds
the value must have been made by one. -/
def assign (value : Datum) : List String → String → Entries → Option Entries
  | [], name, entries =>
    match entries.lookup name with
    | some _ => none
    | none => some (entries ++ [(name, .leaf value)])
  | table :: path, name, entries =>
    match entries.lookup table with
    | none =>
      (assign value path name []).map fun inner => entries ++ [(table, .table .dotted inner)]
    | some (.leaf _) => none
    | some (.table standing inner) =>
      if standing = .stated ∨ (path = [] ∧ standing ≠ .dotted) then none
      else
        (assign value path name inner).map fun grown =>
          replace table (.table standing grown) entries
    | some (.tables elements) =>
      if path = [] then none
      else
        (changeLast? (assign value path name) elements).map fun grown =>
          replace table (.tables grown) entries

/-- Assignments one after the other. -/
def assignAll : List (KeyPath × Datum) → Entries → Option Entries
  | [], entries => some entries
  | (path, value) :: rest, entries =>
    match assign value path.tables path.name entries with
    | none => none
    | some grown => assignAll rest grown

/-! ### Headers -/

/-- Changes the table at the end of a way through tables.  The tables on the way are made where they
are missing; of a list of tables the last one is meant. -/
def changeWithin (change : Entries → Option Entries) : List String → Entries → Option Entries
  | [], entries => change entries
  | table :: path, entries =>
    match entries.lookup table with
    | none =>
      (changeWithin change path []).map fun inner => entries ++ [(table, .table .implied inner)]
    | some (.leaf _) => none
    | some (.table standing inner) =>
      (changeWithin change path inner).map fun grown => replace table (.table standing grown) entries
    | some (.tables elements) =>
      (changeLast? (changeWithin change path) elements).map fun grown =>
        replace table (.tables grown) entries

/-- **The table of a header** with its assignments: the name is new, or an implied table gets its
header now and moves to the end. -/
def addTable (assignments : List (KeyPath × Datum)) (name : String) (entries : Entries) :
    Option Entries :=
  match entries.lookup name with
  | none => (assignAll assignments []).map fun inner => entries ++ [(name, .table .stated inner)]
  | some (.table .implied inner) =>
    (assignAll assignments inner).map fun grown =>
      remove name entries ++ [(name, .table .stated grown)]
  | some _ => none

/-- One more element of a list of tables, with its assignments; the first one makes the list. -/
def addElement (assignments : List (KeyPath × Datum)) (name : String) (entries : Entries) :
    Option Entries :=
  match assignAll assignments [] with
  | none => none
  | some element =>
    match entries.lookup name with
    | none => some (entries ++ [(name, .tables [element])])
    | some (.tables elements) => some (replace name (.tables (elements ++ [element])) entries)
    | some _ => none

/-! ### Structured values -/

mutual

/-- The structured value of an item. -/
def Item.toDatum : Item → Datum
  | .leaf value => value
  | .table _ entries => .mapping (entriesData entries)
  | .tables elements => .tables (elementsData elements)

/-- The structured values of the names of a table. -/
def entriesData : List (String × Item) → List (String × Datum)
  | [] => []
  | (name, item) :: rest => (name, item.toDatum) :: entriesData rest

/-- The structured values of a list of tables. -/
def elementsData : List (List (String × Item)) → List Datum
  | [] => []
  | entries :: rest => .mapping (entriesData entries) :: elementsData rest

end

/-- The structured value of a table. -/
def toDatum (entries : Entries) : Datum := .mapping (entriesData entries)

end PegBox.Toml
