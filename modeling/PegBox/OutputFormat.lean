/-
**The three formats of a result line, and their names.**

Main definitions:

* `PegBox.OutputFormat` — the formats;
* `PegBox.OutputFormat.name` — the name that is shown for a format;
* `PegBox.OutputFormat.ofName` — **the format that a name stands for**: each format has short names
  besides its own, and the case of ASCII letters does not matter.
-/

set_option autoImplicit false

namespace PegBox

/-- How the result line is written. -/
inductive OutputFormat where
  | decimal
  | hex
  | console
  deriving DecidableEq, Repr

namespace OutputFormat

/-- The format of a run that asks for none. -/
def standard : OutputFormat := .decimal

/-- All formats, in the order in which they are listed to the operator. -/
def all : List OutputFormat := [.decimal, .hex, .console]

/-- The name that is shown for a format. -/
def name : OutputFormat → String
  | .decimal => "decimal"
  | .hex => "hex"
  | .console => "console"

/-- The format that a name in lower case stands for. -/
def ofLowerName? (name : String) : Option OutputFormat :=
  if name = "decimal" ∨ name = "dec" ∨ name = "int" then some .decimal
  else if name = "hex" ∨ name = "le" then some .hex
  else if name = "console" ∨ name = "js" then some .console
  else none

/-- What the operator is told about a name that stands for no format; the name is quoted in lower
case. -/
def unknownMessage (name : String) : String :=
  "unknown format '" ++ name.toLower ++ "'. Valid formats: decimal, hex, console"

/-- **The format that a name stands for**; only the case of ASCII letters is free. -/
def ofName (name : String) : Except String OutputFormat :=
  match ofLowerName? name.toLower with
  | some format => .ok format
  | none => .error (unknownMessage name)

end OutputFormat

end PegBox
