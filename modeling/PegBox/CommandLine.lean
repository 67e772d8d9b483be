/-
**The command line.**

Arguments are read from left to right.  A parameter takes a value: attached to it, or the next
argument; a value that is not attached is looked at only once the argument after it has been
recognised.  A switch takes none.  Short names can stand together behind one dash.  What is left is
checked at the end: readings and a readings file exclude each other, and one capture needs the
other.

Main definitions:

* `PegBox.CommandLine.Parameter`, `PegBox.CommandLine.Switch` — what can be given, and by which
  names;
* `PegBox.CommandLine.Arguments` — what is given;
* `PegBox.CommandLine.Stop` — why the arguments are not followed;
* `PegBox.CommandLine.Scan` — the arguments so far, with the parameter that waits for its value;
* `PegBox.CommandLine.Scan.step` — one argument more;
* `PegBox.CommandLine.parse` — **the arguments of a command line**.
-/

import PegBox.Decimal.Literal
import PegBox.Settings

set_option autoImplicit false

namespace PegBox.CommandLine

/-! ### What can be given -/

/-- What takes a value. -/
inductive Parameter where
  | preset
  | highs
  | lows
  | readings
  | config
  | separator
  | format
  deriving DecidableEq, Repr

/-- What takes no value. -/
inductive Switch where
  /-- More messages; it may be given several times. -/
  | verbose
  | help
  | version
  deriving DecidableEq, Repr

/-- The name of a parameter behind two dashes. -/
def Parameter.name : Parameter → String
  | .preset => "preset"
  | .highs => "highs"
  | .lows => "lows"
  | .readings => "readings"
  | .config => "config"
  | .separator => "separator"
  | .format => "format"

/-- The parameters. -/
def Parameter.all : List Parameter :=
  [.preset, .highs, .lows, .readings, .config, .separator, .format]

/-- Whether a parameter takes a list of readings. -/
def Parameter.takesReadings : Parameter → Bool
  | .highs | .lows => true
  | _ => false

/-- The parameter of a name behind two dashes. -/
def Parameter.ofName? (name : String) : Option Parameter :=
  Parameter.all.find? fun parameter => parameter.name == name

/-- The parameter of a letter behind one dash. -/
def Parameter.ofLetter? (letter : Char) : Option Parameter :=
  if letter = 'p' then some .preset
  else if letter = 'r' then some .readings
  else if letter = 'c' then some .config
  else if letter = 's' then some .separator
  else if letter = 'f' then some .format
  else none

/-- The switch of a name behind two dashes. -/
def Switch.ofName? (name : String) : Option Switch :=
  if name = "verbose" then some .verbose
  else if name = "help" then some .help
  else if name = "version" then some .version
  else none

/-- The switch of a letter behind one dash. -/
def Switch.ofLetter? (letter : Char) : Option Switch :=
  if letter = 'v' then some .verbose
  else if letter = 'h' then some .help
  else if letter = 'V' then some .version
  else none

/-! ### What is given -/

/-- What is given on a command line. -/
structure Arguments where
  overrides : Overrides
  config : Option String
  deriving DecidableEq

/-- Nothing is given. -/
def Arguments.empty : Arguments := ⟨.empty, none⟩

/-- Why the arguments are not followed. -/
inductive Stop where
  | invalidValue (parameter : Parameter) (value reason : String)
  | misuse
  | version
  | help
  deriving DecidableEq, Repr

/-- The readings in a value, with commas between them; the first one that is no number is the reason
to stop. -/
def readingsOf (parameter : Parameter) : List (List Char) → Except Stop (List Float)
  | [] => .ok []
  | piece :: rest =>
    match Decimal.floatOfLiteral piece with
    | .error fault => .error (.invalidValue parameter (String.ofList piece) fault.message)
    | .ok reading =>
      match readingsOf parameter rest with
      | .error stop => .error stop
      | .ok readings => .ok (reading :: readings)

/-- The readings of one more value, behind those that are given already. -/
def addReadings (parameter : Parameter) (value : String) (given : Option (List Float)) :
    Except Stop (Option (List Float)) :=
  match readingsOf parameter (value.toList.splitOn ',') with
  | .error stop => .error stop
  | .ok readings => .ok (some (given.getD [] ++ readings))

/-- The value of a name, unless the parameter is given already. -/
def addNamed {α : Type} (parameter : Parameter) (value : String) (ofName : String → Except String α)
    (given : Option α) : Except Stop (Option α) :=
  match given, ofName value with
  | some _, _ => .error .misuse
  | none, .error reason => .error (.invalidValue parameter value reason)
  | none, .ok named => .ok (some named)

/-- A path, unless it is empty or the parameter is given already. -/
def addPath (value : String) (given : Option String) : Except Stop (Option String) :=
  if given.isSome ∨ value = "" then .error .misuse else .ok (some value)

/-- A text, unless the parameter is given already. -/
def addText (value : String) (given : Option String) : Except Stop (Option String) :=
  if given.isSome then .error .misuse else .ok (some value)

/-- **The arguments with one more value.** -/
def Arguments.add (arguments : Arguments) (parameter : Parameter) (value : String) :
    Except Stop Arguments :=
  let given := arguments.overrides
  match parameter with
  | .preset =>
    (addNamed .preset value Preset.ofName given.preset).map fun preset =>
      { arguments with overrides := { given with preset := preset } }
  | .highs =>
    (addReadings .highs value given.highs).map fun highs =>
      { arguments with overrides := { given with highs := highs } }
  | .lows =>
    (addReadings .lows value given.lows).map fun lows =>
      { arguments with overrides := { given with lows := lows } }
  | .readings =>
    (addPath value given.readings).map fun readings =>
      { arguments with overrides := { given with readings := readings } }
  | .config =>
    (addPath value arguments.config).map fun config => { arguments with config := config }
  | .separator =>
    (addText value given.separator).map fun separator =>
      { arguments with overrides := { given with separator := separator } }
  | .format =>
    (addNamed .format value OutputFormat.ofName given.format).map fun format =>
      { arguments with overrides := { given with format := format } }

/-! ### Reading arguments -/

/-- The arguments so far. -/
structure Scan where
  arguments : Arguments
  /-- The parameter that was named last, with the value that followed it, as long as the value has
  not been looked at. -/
  pending : Option (Parameter × Option String)
  /-- Whether two dashes have ended the parameters and switches. -/
  ended : Bool

namespace Scan

/-- The start of a command line. -/
def start : Scan := ⟨.empty, none, false⟩

/-- Looks at the value of the parameter that was named last; without a value it cannot go on. -/
def settle (scan : Scan) : Except Stop Scan :=
  match scan.pending with
  | none => .ok scan
  | some (_, none) => .error .misuse
  | some (parameter, some value) =>
    (scan.arguments.add parameter value).map fun arguments => ⟨arguments, none, scan.ended⟩

/-- A parameter is named, with the value that is attached to it, if one is. -/
def name (scan : Scan) (parameter : Parameter) (attached : Option String) : Except Stop Scan :=
  match scan.settle with
  | .error stop => .error stop
  | .ok settled =>
    match attached with
    | none => .ok { settled with pending := some (parameter, none) }
    | some value =>
      (settled.arguments.add parameter value).map fun arguments =>
        { settled with arguments := arguments }

/-- A switch is given. -/
def flip (scan : Scan) (switch : Switch) : Except Stop Scan :=
  match scan.settle with
  | .error stop => .error stop
  | .ok settled =>
    match switch with
    | .verbose => .ok settled
    | .help => .error .help
    | .version => .error .version

/-- The value that an equals sign attaches, if there is one. -/
def attachedValue : List Char → Option String
  | '=' :: value => some (String.ofList value)
  | _ => none

/-- An argument behind two dashes. -/
def long (scan : Scan) (text : List Char) : Except Stop Scan :=
  let word := String.ofList (text.takeWhile (· ≠ '='))
  let attached := attachedValue (text.dropWhile (· ≠ '='))
  match Parameter.ofName? word, Switch.ofName? word with
  | some parameter, _ => scan.name parameter attached
  | none, some switch => if attached.isSome then .error .misuse else scan.flip switch
  | none, none => .error .misuse

/-- Letters behind one dash: switches, and at the end a parameter with what follows it. -/
def letters (scan : Scan) : List Char → Except Stop Scan
  | [] => .ok scan
  | letter :: rest =>
    match Parameter.ofLetter? letter, Switch.ofLetter? letter with
    | some parameter, _ =>
      match rest with
      | [] => scan.name parameter none
      | '=' :: value => scan.name parameter (some (String.ofList value))
      | value => scan.name parameter (some (String.ofList value))
    | none, some switch =>
      match scan.flip switch with
      | .error stop => .error stop
      | .ok flipped => flipped.letters rest
    | none, none => .error .misuse

/-- A value for the parameter that was named last. -/
def value (scan : Scan) (text : String) : Except Stop Scan :=
  match scan.pending with
  | some (parameter, none) => .ok { scan with pending := some (parameter, some text) }
  | _ => .error .misuse

/-- Whether the characters after the first make up a number: digits, with one point before the
letter of a power of ten, which may not come last and may be a capital. -/
def isNumberTail : Bool → Bool → List Char → Bool
  | _, _, [] => true
  | point, power, c :: rest =>
    if c.isDigit then isNumberTail point power rest
    else if c = '.' then !point && !power && isNumberTail true power rest
    else if c = 'e' ∨ c = 'E' then !power && !rest.isEmpty && isNumberTail point true rest
    else false

/-- Whether the characters behind one dash make up a number, which begins with a digit. -/
def isNumber : List Char → Bool
  | [] => false
  | c :: rest => c.isDigit && isNumberTail false false rest

/-- Whether an argument is taken as a negative reading. -/
def takesNegative (scan : Scan) (text : List Char) : Bool :=
  match scan.pending with
  | some (parameter, none) => parameter.takesReadings && isNumber text
  | _ => false

/-- One argument more. -/
def step (scan : Scan) (argument : String) : Except Stop Scan :=
  if scan.ended then .error .misuse
  else
    match argument.toList with
    | ['-', '-'] => .ok { scan with ended := true }
    | '-' :: '-' :: text => scan.long text
    | '-' :: letter :: rest =>
      if scan.takesNegative (letter :: rest) then scan.value argument
      else scan.letters (letter :: rest)
    | _ => scan.value argument

/-- All arguments. -/
def steps (scan : Scan) : List String → Except Stop Scan
  | [] => .ok scan
  | argument :: rest =>
    match scan.step argument with
    | .error stop => .error stop
    | .ok next => next.steps rest

end Scan

/-! ### The whole command line -/

/-- Whether readings are given as they are and as a file, or only one capture is given. -/
def Arguments.contradictory (arguments : Arguments) : Bool :=
  let given := arguments.overrides
  given.highs.isSome != given.lows.isSome || (given.readings.isSome && given.highs.isSome)

/-- **The arguments of a command line**, or why they are not followed. -/
def parse (line : List String) : Except Stop Arguments :=
  match Scan.start.steps line with
  | .error stop => .error stop
  | .ok scan =>
    match scan.settle with
    | .error stop => .error stop
    | .ok settled =>
      if settled.arguments.contradictory then .error .misuse else .ok settled.arguments

end PegBox.CommandLine
