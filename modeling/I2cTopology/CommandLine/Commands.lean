import I2cTopology.CommandLine.Arguments
import I2cTopology.Files.Generation

/-!
# What the commands do

Each command line is a job that ends with an exit code: 0 for success, 1 for a failure and 2 for misuse.
-/

namespace I2cTopology

/-- The summary of a board: one line on the whole, and one on each driver kind. -/
def Topology.summary (t : Topology) (config : String) : String :=
  let whole := s!"{config}: {t.controllers.length} controller(s), {t.ports.length} port(s), " ++
    s!"{t.muxes.length} mux(es), {t.devices.length} device(s), {t.sensors.total} sensor(s), " ++
    s!"{t.rails.size} rail(s)"
  "\n".intercalate (whole :: t.groups.entries.map fun (kind, g) => s!"  {kind}: {g.devices.length}")

namespace Command

/-- Tells of a failure and ends. -/
def fail (text : String) : Job Nat := .complain s!"error: {text}\n" (.done 1)

/-- Resolves a document and prints a summary of the board. -/
def checkJob (config : String) : Job Nat :=
  .readText config fun
    | .error e => fail s!"{config}: {e.message}"
    | .ok text => .report (resolveTextLog text)
      (match resolveText text with
      | .error e => fail s!"{config}: {e.message}"
      | .ok t => .print (t.summary config ++ "\n") (.done 0))

/-- Hands over an artifact, to a file or to the output. -/
def deliver (artifact : String) : Option String → Job Nat
  | none => .print artifact (.done 0)
  | some path => .writeText path artifact fun
    | .error e => fail s!"failed to write {path}: {e.message}"
    | .ok _ => .report [.debug s!"wrote {path}"] (.done 0)

/-- Emits the artifact of a document. -/
def emitJob (config : String) (dispositions : List Disposition) (o : EmitOptions) (output : Option String) : Job Nat :=
  .readText config fun
    | .error e => fail s!"{config}: {e.message}"
    | .ok text => .report (generateLog text dispositions o)
      (match generate text dispositions o with
      | .error e => fail s!"{config}: {e.message}"
      | .ok artifact => deliver artifact output)

/-- The job of a command. -/
def job : Command → Job Nat
  | .check config => checkJob config
  | .emit config dispositions o output => emitJob config dispositions o output

end Command

namespace CommandLine

/-- How the program names itself and its version. -/
def version : String := "i2c-codegen 0.1.0"

/-- How the program is used. -/
def usage : String := "Compile I2C topology documents into runtime access tables

Usage: i2c-codegen [-v] check CONFIG
       i2c-codegen [-v] emit CONFIG -d DISPOSITION [-d DISPOSITION]... [-o OUTPUT] [--standalone]
                   [--check KIND=PATH]... [--module NAME] [--core-path PATH]

Dispositions: initiator, target, devices, sensors, validation
"

/-- The job of a command line that asks for no work. -/
def haltJob : Halt → Job Nat
  | .help => .print usage (.done 0)
  | .version => .print (version ++ "\n") (.done 0)
  | .misuse reason => .complain s!"error: {reason}\n\n{usage}" (.done 2)

/-- The job of a command line. -/
def job (arguments : List String) : Job Nat :=
  match parse arguments with
  | .error e => haltJob e
  | .ok line => line.command.job

end CommandLine

end I2cTopology
