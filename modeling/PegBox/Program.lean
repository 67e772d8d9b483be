/-
**The program.**

The program reads its command line, loads the configuration file that is named there, resolves the
settings and runs.  Standard output carries the result line and nothing else; every failure goes to
the error output, and the exit status says which kind it was.

Main definitions:

* `PegBox.Program.Outcome` — what a call of the program leaves behind;
* `PegBox.Program.invalidValueMessage` — what is said of a value without a meaning;
* `PegBox.Program.execute` — the line of a call that follows its arguments, or the failure;
* `PegBox.Program.outcome` — **the outcome of a call**.
-/

import PegBox.CommandLine
import PegBox.Run
import PegBox.Text.Plain

set_option autoImplicit false

namespace PegBox.Program

/-- What a call of the program leaves behind. -/
structure Outcome where
  /-- The exit status: zero, one after a failure, two after arguments that are not followed. -/
  status : Nat
  output : String
  /-- What the error output says behind the log lines, which are left out: of a failure the whole
  message, and of arguments that are not followed the first line, where a value is to blame. -/
  errors : Option String
  deriving DecidableEq, Repr

/-- The name and the version of the program. -/
def versionLine : String := "peg_thresholds 0.1.0\n"

/-- What is shown to an operator who asks for the arguments. -/
def helpText : String :=
  "Compute peg detection thresholds from high/low captures\n\n"
    ++ "Usage: peg_thresholds [OPTIONS]\n\n"
    ++ "Options:\n"
    ++ "  -p, --preset <PRESET>        Hardcoded capture to use: capture-1, capture-2\n"
    ++ "      --highs <HIGHS>          Uncovered readings, comma separated\n"
    ++ "      --lows <LOWS>            Covered readings, comma separated\n"
    ++ "  -r, --readings <READINGS>    TOML file with `highs` and `lows` arrays\n"
    ++ "  -c, --config <CONFIG>        Configuration file (preset, separator, format)\n"
    ++ "  -s, --separator <SEPARATOR>  String placed between values (default: the preset's)\n"
    ++ "  -f, --format <FORMAT>        Output format: decimal, hex, console\n"
    ++ "  -v, --verbose...             Increase log verbosity (-v info, -vv debug, -vvv trace)\n"
    ++ "  -h, --help                   Print help\n"
    ++ "  -V, --version                Print version\n"

/-- The characters before the first line feed, without a carriage return in front of it. -/
def firstLineOf : List Char → List Char
  | [] => []
  | '\n' :: _ => []
  | '\r' :: '\n' :: _ => []
  | c :: rest => c :: firstLineOf rest

/-- The first line of a text. -/
def firstLine (text : String) : String := String.ofList (firstLineOf text.toList)

/-- A text that a terminal shows in a style of its own. -/
def styled (style text : String) : String := "\x1b[" ++ style ++ "m" ++ text ++ "\x1b[0m"

/-- What the operator is told about a value without a meaning, for a terminal. -/
def invalidValueMessage (parameter : CommandLine.Parameter) (value reason : String) : String :=
  let option := "--" ++ parameter.name ++ " <" ++ parameter.name.toUpper ++ ">"
  styled "1;31" "error:" ++ " invalid value '" ++ styled "33" value ++ "' for '" ++ styled "1" option
    ++ "': " ++ reason ++ "\n\nFor more information, try '" ++ styled "1" "--help" ++ "'.\n"

/-- The configuration that a call names, if it names one. -/
def loadConfig (files : Files) (path : Option String) : Except Failure (Option Config) :=
  match path with
  | none => .ok none
  | some path =>
    match Config.load files path with
    | .error failure => .error failure
    | .ok config => .ok (some config)

/-- The settings of a call: its configuration first, then its arguments over it. -/
def settingsOf (files : Files) (arguments : CommandLine.Arguments) : Except Failure Settings :=
  match loadConfig files arguments.config with
  | .error failure => .error failure
  | .ok config => Settings.resolve arguments.overrides config

/-- A call that follows its arguments: its answer, and what it writes to standard output. -/
def execute (files : Files) (arguments : CommandLine.Arguments) : Except Failure String × String :=
  match settingsOf files arguments with
  | .error failure => (.error failure, "")
  | .ok settings => settings.run files ""

/-- The outcome of arguments that are not followed. -/
def stopOutcome : CommandLine.Stop → Outcome
  | .version => ⟨0, versionLine, none⟩
  | .help => ⟨0, helpText, none⟩
  | .misuse => ⟨2, "", none⟩
  | .invalidValue parameter value reason =>
    ⟨2, "", some (firstLine (Text.plain (invalidValueMessage parameter value reason)))⟩

/-- **The outcome of a call**; `syntaxWords` are the words of the reader of TOML for a text that is no
document. -/
def outcome (files : Files) (line : List String)
    (syntaxWords : String → String := Toml.unworded) : Outcome :=
  match CommandLine.parse line with
  | .error stop => stopOutcome stop
  | .ok arguments =>
    match execute files arguments with
    | (.ok _, output) => ⟨0, output, none⟩
    | (.error failure, output) =>
      ⟨1, output, some ("Error: " ++ failure.message syntaxWords ++ "\n")⟩

end PegBox.Program
