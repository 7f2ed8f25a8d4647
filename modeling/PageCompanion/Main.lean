/-
# The command

`main` reads the source that the command line asks for and prints the report.  What is read and
what is printed is decided in `PageCompanion.Preview`; here are only the reading and printing.
-/
import PageCompanion.Preview.Report

namespace PageCompanion.Preview

/-- The number of an error, which the system may give with a minus sign. -/
def errorNumber (code : UInt32) : UInt32 :=
  min code (0 - code)

/-- The fault that an error of the system stands for. -/
def sourceFault (e : IO.Error) : SourceFault :=
  match e with
  | .noFileOrDirectory .. => .notFound
  | .inappropriateType _ code _ =>
    if errorNumber code = 20 then .notDirectory else .isDirectory
  | .invalidArgument _ code _ =>
    if errorNumber code = 36 then .nameTooLong else .reported (toString e)
  | _ => .reported (toString e)

/-- Do an action that reads bytes, with its errors as faults. -/
def readBytes (action : IO ByteArray) : IO (Except SourceFault (List UInt8)) := do
  try
    return .ok (← action).data.toList
  catch e =>
    return .error (sourceFault e)

def readSource (source : Source) : IO (Except SourceFault (List UInt8)) :=
  match source with
  | .argument _ => return .ok []
  | .file name => readBytes (IO.FS.readBinFile name)
  | .stdin => do readBytes (← IO.getStdin).readBinToEnd

def runCommand (arguments : List String) : IO Outcome :=
  match Invocation.parse arguments with
  | .error stop => return stop.outcome
  | .ok i =>
    match i.settings with
    | .error fault => return failed [] (.setting fault)
    | .ok settings => return report i settings (← readSource i.source)

end PageCompanion.Preview

/-- Preview the header that a page would send. -/
def main (arguments : List String) : IO UInt32 := do
  let outcome ← PageCompanion.Preview.runCommand arguments
  IO.print outcome.stdout
  IO.eprint outcome.stderr
  if outcome.exit = 2 then IO.eprintln ""
  return outcome.exit.toUInt32
