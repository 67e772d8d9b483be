/-
**Why a run fails.**

Every stage of a run has faults of its own.  A failure keeps the fault with its stage; the stage
gives it a code and decides whether the operator has to give other input.

Main definitions:

* `PegBox.UsageFault` — arguments that contradict each other;
* `PegBox.Failure` — **why a run fails**;
* `PegBox.Failure.message`, `PegBox.Failure.code`, `PegBox.Failure.isInvalidInput` — what the
  operator is told, the code of the stage, and whether the input is to blame.
-/

import PegBox.Output
import PegBox.Source

set_option autoImplicit false

namespace PegBox

/-- Arguments that contradict each other. -/
inductive UsageFault where
  | halfReadings
  | readingsAndFile
  | other (words : String)
  deriving DecidableEq, Repr

/-- What the operator is told about arguments that contradict each other. -/
def UsageFault.message : UsageFault → String
  | .halfReadings => "--highs and --lows must be given together"
  | .readingsAndFile => "use either --highs/--lows or --readings, not both"
  | .other words => words

/-- **Why a run fails.** -/
inductive Failure where
  | calibration (fault : InputFault)
  | source (error : SourceError)
  | report (refusal : ReportError)
  | output (error : OutputError)
  | configRead (path : String) (fault : ReadFault)
  | configParse (path : String) (fault : DocumentFault)
  | usage (fault : UsageFault)

namespace Failure

/-- What the operator is told about a failure; `syntaxWords` are the words of the reader of TOML for a
text that is no document. -/
def message (failure : Failure) (syntaxWords : String → String := Toml.unworded) : String :=
  match failure with
  | .calibration fault =>
    fault.message ++ "\n  → Give the same number of high and low readings, one per peg"
  | .source error => error.message syntaxWords
  | .report refusal =>
    refusal.message
      ++ "\n  → The decimal format prints any midpoint; hex and console need device-sized thresholds"
  | .output error => error.message
  | .configRead path fault =>
    "Configuration file " ++ path ++ " could not be read: " ++ fault.message
  | .configParse path fault =>
    "Invalid configuration in " ++ path ++ ": " ++ fault.message syntaxWords
  | .usage fault => fault.message

/-- The code of the stage that failed. -/
def code : Failure → String
  | .calibration _ => "E001"
  | .source _ => "E010"
  | .report _ => "E020"
  | .output _ => "E030"
  | .configRead _ _ => "E040"
  | .configParse _ _ => "E041"
  | .usage _ => "E050"

/-- Whether the operator gave input that has to be changed. -/
def isInvalidInput : Failure → Bool
  | .calibration _ => true
  | .source (.invalid _) => true
  | .usage _ => true
  | _ => false

end Failure

end PegBox
