import I2cTopology.CommandLine.Commands

/-!
# The program

Answers a job's requests from the real file system and environment.
-/

namespace I2cTopology.Program

/-- The number of a failure, which some accesses give with its sign changed. -/
def failureNumber (code : UInt32) : UInt32 := if code < 0x80000000 then code else 0 - code

/-- The failure of a file access, as far as it is one that the system numbers. -/
def fileError : IO.Error → Option FileError
  | .noFileOrDirectory .. => some .notFound
  | .inappropriateType _ code _ => some (if failureNumber code = 20 then .notDirectory else .isDirectory)
  | .invalidArgument _ code details =>
    some (if failureNumber code = 36 then .nameTooLong else .system details (failureNumber code).toNat)
  | .permissionDenied _ code details | .resourceExhausted _ code details | .alreadyExists _ code details
  | .noSuchThing _ code details | .interrupted _ code details | .otherError code details | .resourceBusy code details
  | .resourceVanished code details | .unsupportedOperation code details | .hardwareFault code details
  | .unsatisfiedConstraints code details | .illegalOperation code details | .protocolError code details
  | .timeExpired code details => some (.system details (failureNumber code).toNat)
  | .unexpectedEof | .userError _ => none

/-- Runs a file access; any other failure ends the program. -/
def access {α : Type} (action : IO α) : IO (Except FileError α) := do
  match ← action.toBaseIO with
  | .ok value => return .ok value
  | .error e =>
    match fileError e with
    | some known => return .error known
    | none => throw e

/-- Reads the text in a file. -/
def readText (path : String) : IO (Except FileError String) := do
  match ← access (IO.FS.readBinFile path) with
  | .error e => return .error e
  | .ok bytes =>
    match String.fromUTF8? bytes with
    | some text => return .ok text
    | none => return .error .invalidText

/-- Runs a job. -/
def perform {α : Type} (verbose : Bool) : Job α → IO α
  | .done value => return value
  | .readVariable name next => do perform verbose (next (← IO.getEnv name))
  | .readText path next => do perform verbose (next (← readText path))
  | .writeText path text next => do perform verbose (next (← access (IO.FS.writeFile path text)))
  | .print text next => do
    IO.print text
    perform verbose next
  | .complain text next => do
    IO.eprint text
    perform verbose next
  | .report log next => do
    if verbose then
      for r in log do IO.eprintln r.line
    perform verbose next

/-- Whether the course of events is to be told. -/
def isVerbose (arguments : List String) : Bool :=
  match CommandLine.parse arguments with
  | .ok line => line.verbose
  | .error _ => false

end I2cTopology.Program

/-- The command line. -/
def main (arguments : List String) : IO UInt32 := do
  let job := I2cTopology.CommandLine.job arguments
  let code ← I2cTopology.Program.perform (I2cTopology.Program.isVerbose arguments) job
  return UInt32.ofNat code
