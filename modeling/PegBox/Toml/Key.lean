/-
**Keys of a TOML document.**

A key is one name or several with dots between them; blanks may stand around each.  A name is bare,
of ASCII letters, digits, dashes and underscores, or it is a quoted text of one line.

Main definitions:

* `PegBox.Toml.KeyPath` — a key: the names that lead to a table, and the name in it;
* `PegBox.Toml.keyName?` — one name at the front of a document;
* `PegBox.Toml.keyPath?` — **a key at the front of a document**, and what follows it.
-/

import PegBox.Toml.Quoted

set_option autoImplicit false

namespace PegBox.Toml

/-- A key: the names that lead to a table, and the name in that table. -/
structure KeyPath where
  tables : List String
  name : String
  deriving DecidableEq, Repr

/-- The key that goes through one table more. -/
def KeyPath.within (table : String) (path : KeyPath) : KeyPath := ⟨table :: path.tables, path.name⟩

/-- The characters of a bare name. -/
def isBare (c : Char) : Bool := c.isAlphanum || c = '-' || c = '_'

/-- One name at the front of a document, and what follows it. -/
def keyName? (text : List Char) : Option (String × List Char) :=
  match text with
  | [] => none
  | c :: rest =>
    if c = '"' then (basicLine .plain rest).map fun (name, after) => (String.ofList name, after)
    else if c = apostrophe then
      (literalLine rest).map fun (name, after) => (String.ofList name, after)
    else if isBare c then some (String.ofList (text.takeWhile isBare), text.dropWhile isBare)
    else none

/-- A key has fewer names than this. -/
def keyNameLimit : Nat := 80

/-- A key of at most `names` names at the front of a document, and what follows it and its
blanks. -/
def keyPathOf? : Nat → List Char → Option (KeyPath × List Char)
  | 0, _ => none
  | names + 1, text =>
    match keyName? (skipBlanks text) with
    | none => none
    | some (name, rest) =>
      match skipBlanks rest with
      | '.' :: after =>
        match keyPathOf? names after with
        | none => none
        | some (path, final) => some (path.within name, final)
      | after => some (⟨[], name⟩, after)

/-- **A key at the front of a document**, and what follows it and its blanks. -/
def keyPath? : List Char → Option (KeyPath × List Char) := keyPathOf? (keyNameLimit - 1)

end PegBox.Toml
