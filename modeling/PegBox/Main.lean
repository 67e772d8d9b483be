/-
**The command line program.**

The outer layer: it reads the files that the arguments name, hands them to the program and prints
the outcome.  All decisions are made in `PegBox.Program`.
-/

import PegBox.Program

set_option autoImplicit false

namespace PegBox.Main

/-- The code of an error of the operating system; some calls deliver it with the opposite sign. -/
def osCode (code : UInt32) : Nat := min code.toNat (4294967296 - code.toNat)

/-- The reason why the operating system could not read a path. -/
def readFault : IO.Error → ReadFault
  | .noFileOrDirectory _ _ _ => .missing
  | .inappropriateType _ code _ => if osCode code = 21 then .isDirectory else .notDirectory
  | .invalidArgument _ code details =>
    if osCode code = 36 then .nameTooLong else .other (worded code details)
  | .permissionDenied _ code details => .other (worded code details)
  | error => .other (toString error)
where
  /-- Another reason, in the words of the operating system. -/
  worded (code : UInt32) (details : String) : String :=
    details.capitalize ++ " (os error " ++ toString (osCode code) ++ ")"

/-- The text at a path, or the reason why there is none. -/
def readPath (path : String) : IO (Except ReadFault String) := do
  if path.toList.contains (Char.ofNat 0) then
    return .error .nullInPath
  try
    let content ← IO.FS.readBinFile path
    match String.fromUTF8? content with
    | some text => return .ok text
    | none => return .error .notText
  catch error => return .error (readFault error)

/-- The files that arguments name, read once. -/
def readNamed (line : List String) : IO Files := do
  let paths :=
    match CommandLine.parse line with
    | .error _ => []
    | .ok arguments => arguments.config.toList ++ arguments.overrides.readings.toList
  let contents ← paths.mapM fun path => do
    let content ← readPath path
    return (path, content)
  return ⟨fun path => (contents.lookup path).getD (.error .missing)⟩

end PegBox.Main

/-- Runs the program. -/
def main (line : List String) : IO UInt32 := do
  let files ← PegBox.Main.readNamed line
  let outcome := PegBox.Program.outcome files line
  IO.print outcome.output
  match outcome.errors with
  | some text => if outcome.status = 2 then IO.eprintln text else IO.eprint text
  | none => if outcome.status = 2 then IO.eprintln "error: unexpected arguments (try --help)"
  return UInt32.ofNat outcome.status
