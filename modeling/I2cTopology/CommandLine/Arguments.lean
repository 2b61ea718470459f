import I2cTopology.Artifact.Basic

/-!
# Command line arguments

Arguments are read from left to right. A switch is `-x` or `--name`; its value is the rest of the argument or the next
argument, and short switches may be run together. After `--` nothing is a switch. The first thing that is wrong, or a
request for help or for the version, ends the reading.

- `Switches.next`: the reading of one argument that begins with a dash;
- `CommandLine.parse`: the reading of a whole command line.
-/

namespace I2cTopology

/-- Why a command line asks for no work. -/
inductive Halt where
  /-- Help is asked for. -/
  | help
  /-- The version is asked for. -/
  | version
  /-- The command line is wrong. -/
  | misuse (reason : String)
deriving DecidableEq

/-- What a switch does to the settings `σ`. -/
inductive SwitchAction (σ : Type) where
  | halt (reason : Halt)
  /-- The switch stands alone. -/
  | flag (apply : σ → Except Halt σ)
  /-- The switch takes a value. -/
  | value (apply : σ → String → Except Halt σ)

/-- A switch. -/
structure Switch (σ : Type) where
  short : Option Char
  long : String
  action : SwitchAction σ

/-- The switches of a command. -/
abbrev Switches (σ : Type) := List (Switch σ)

/-- Where the reading of an argument leaves off. -/
inductive Progress (σ : Type) where
  | settled (settings : σ)
  /-- A switch waits for its value, the next argument. -/
  | waiting (settings : σ) (apply : σ → String → Except Halt σ)

namespace Switches

variable {σ : Type}

/-- Reads short switches that have been run together. -/
def cluster (switches : Switches σ) (settings : σ) : List Char → Except Halt (Progress σ)
  | [] => .ok (.settled settings)
  | c :: cs =>
    match switches.find? (·.short == some c) with
    | none => .error (.misuse s!"unexpected argument -{c}")
    | some s =>
      match s.action, cs with
      | .halt reason, _ => .error reason
      | .flag apply, _ =>
        match apply settings with
        | .error e => .error e
        | .ok settings => cluster switches settings cs
      | .value apply, [] => .ok (.waiting settings apply)
      | .value apply, '=' :: value => (apply settings (String.ofList value)).map .settled
      | .value apply, value => (apply settings (String.ofList value)).map .settled

/-- Reads a long switch, its name being what stands before the first `=`. -/
def longSwitch (switches : Switches σ) (settings : σ) (text : List Char) : Except Halt (Progress σ) :=
  let name := String.ofList (text.takeWhile (· != '='))
  let value := text.dropWhile (· != '=')
  match switches.find? (·.long == name) with
  | none => .error (.misuse s!"unexpected argument --{name}")
  | some s =>
    match s.action, value with
    | .halt reason, [] => .error reason
    | .flag apply, [] => (apply settings).map .settled
    | .value apply, [] => .ok (.waiting settings apply)
    | .value apply, _ :: value => (apply settings (String.ofList value)).map .settled
    | _, _ => .error (.misuse s!"unexpected value for --{name}")

/-- Whether an argument is made of switches. A lone dash is a value. -/
def isSwitch (argument : String) : Bool :=
  match argument.toList with
  | '-' :: _ :: _ => true
  | _ => false

/-- Reads an argument that is made of switches. -/
def next (switches : Switches σ) (settings : σ) (argument : String) : Except Halt (Progress σ) :=
  match argument.toList with
  | '-' :: '-' :: text => longSwitch switches settings text
  | '-' :: text => cluster switches settings text
  | _ => .ok (.settled settings)

/-- Reads arguments that are no switches. -/
def plain (positional : σ → String → Except Halt σ) (settings : σ) (arguments : List String) : Except Halt σ :=
  arguments.foldlM positional settings

/-- Reads all arguments of a command. -/
def read (switches : Switches σ) (positional : σ → String → Except Halt σ) (settings : σ) :
    List String → Except Halt σ
  | [] => .ok settings
  | argument :: rest =>
    if argument = "--" then plain positional settings rest
    else if isSwitch argument then
      match next switches settings argument, rest with
      | .error e, _ => .error e
      | .ok (.settled settings), rest => read switches positional settings rest
      | .ok (.waiting _ _), [] => .error (.misuse s!"{argument} needs a value")
      | .ok (.waiting settings apply), value :: rest =>
        if isSwitch value then .error (.misuse s!"{argument} needs a value")
        else
          match apply settings value with
          | .error e => .error e
          | .ok settings => read switches positional settings rest
    else
      match positional settings argument with
      | .error e => .error e
      | .ok settings => read switches positional settings rest

end Switches

/-! ## The commands -/

/-- What a command line asks for. -/
inductive Command where
  /-- Resolve a document and print a summary. -/
  | check (config : String)
  /-- Emit the artifact of a document, to a file if one is named. -/
  | emit (config : String) (dispositions : List Disposition) (options : EmitOptions) (output : Option String)

/-- A command line that has been read. -/
structure CommandLine where
  /-- Whether the course of events is to be told. -/
  verbose : Bool
  command : Command

/-- What the arguments of a command have set. -/
structure Settings where
  verbose : Bool := false
  config : Option String := none
  dispositions : List Disposition := []
  output : Option String := none
  standalone : Bool := false
  checks : List (String × String) := []
  moduleName : Option String := none
  corePath : Option String := none

namespace Settings

/-- Gives a value to something that may be set once. -/
def once {α : Type} (name : String) (old : Option α) (value : α) : Except Halt (Option α) :=
  match old with
  | none => .ok (some value)
  | some _ => .error (.misuse s!"{name} is given twice")

/-- Raises a flag that may be raised once. -/
def raise (name : String) (old : Bool) : Except Halt Bool :=
  if old then .error (.misuse s!"{name} is given twice") else .ok true

/-- A path has at least one character. -/
def path (text : String) : Except Halt String :=
  if text.isEmpty then .error (.misuse "a path is empty") else .ok text

/-- A check is given as its driver kind and its path with `=` between them, and neither is empty. -/
def checkSpec (text : String) : Except Halt (String × String) :=
  let kind := text.toList.takeWhile (· != '=')
  match kind, text.toList.dropWhile (· != '=') with
  | _ :: _, '=' :: c :: rest => .ok (String.ofList kind, String.ofList (c :: rest))
  | _, _ => .error (.misuse "a check is a kind and a path with = between them")

/-- The part with a name. -/
def disposition (name : String) : Except Halt Disposition :=
  match Disposition.ofName? name with
  | some d => .ok d
  | none => .error (.misuse (Disposition.unknownMessage name))

/-- The switch for telling the course of events. -/
def verboseSwitch : Switch Settings :=
  ⟨some 'v', "verbose", .flag fun s => (raise "--verbose" s.verbose).map fun verbose => { s with verbose }⟩

/-- The switch for help. -/
def helpSwitch : Switch Settings := ⟨some 'h', "help", .halt .help⟩

/-- The switches before a command. -/
def topSwitches : Switches Settings := [verboseSwitch, helpSwitch, ⟨some 'V', "version", .halt .version⟩]

/-- The switches of the command that checks. -/
def checkSwitches : Switches Settings := [verboseSwitch, helpSwitch]

/-- The switches of the command that emits. -/
def emitSwitches : Switches Settings := [
  verboseSwitch, helpSwitch,
  ⟨some 'd', "disposition", .value fun s name => (disposition name).map fun d =>
    { s with dispositions := s.dispositions ++ [d] }⟩,
  ⟨some 'o', "output", .value fun s text => do
    let text ← path text
    let output ← once "--output" s.output text
    .ok { s with output }⟩,
  ⟨none, "standalone", .flag fun s => (raise "--standalone" s.standalone).map fun standalone => { s with standalone }⟩,
  ⟨none, "check", .value fun s text => (checkSpec text).map fun check => { s with checks := s.checks ++ [check] }⟩,
  ⟨none, "module", .value fun s name => (once "--module" s.moduleName name).map fun moduleName =>
    { s with moduleName }⟩,
  ⟨none, "core-path", .value fun s text => (once "--core-path" s.corePath text).map fun corePath =>
    { s with corePath }⟩]

/-- Both commands take the path of a document. -/
def takeConfig (s : Settings) (text : String) : Except Halt Settings := do
  let text ← path text
  let config ← once "the document" s.config text
  .ok { s with config }

/-- The command that checks. -/
def checkCommand (s : Settings) : Except Halt Command :=
  match s.config with
  | some config => .ok (.check config)
  | none => .error (.misuse "the document is missing")

/-- The options that have been set. -/
def options (s : Settings) : EmitOptions :=
  let unset : EmitOptions := {}
  { standalone := s.standalone
    moduleName := s.moduleName.getD unset.moduleName
    corePath := s.corePath.getD unset.corePath
    checks := .ofList s.checks }

/-- The command that emits. -/
def emitCommand (s : Settings) : Except Halt Command :=
  match s.config, s.dispositions with
  | none, _ => .error (.misuse "the document is missing")
  | _, [] => .error (.misuse "a disposition is missing")
  | some config, dispositions => .ok (.emit config dispositions s.options s.output)

end Settings

namespace CommandLine

/-- Help may be asked for on one command, or on help. -/
def helpOn : List String → Halt
  | [] => .help
  | [name] => if ["check", "emit", "help"].contains name then .help else .misuse s!"no command {name}"
  | _ => .misuse "help is on one command"

/-- Reads the arguments of a command. -/
def ofCommand (verbose : Bool) (switches : Switches Settings) (finish : Settings → Except Halt Command)
    (arguments : List String) : Except Halt CommandLine := do
  let s ← switches.read Settings.takeConfig {} arguments
  let command ← finish s
  .ok ⟨verbose || s.verbose, command⟩

/-- Reads a command line from the switches before the command on. -/
def parseFrom (settings : Settings) : List String → Except Halt CommandLine
  | [] => .error (.misuse "a command is missing")
  | argument :: rest =>
    if argument = "check" then ofCommand settings.verbose Settings.checkSwitches Settings.checkCommand rest
    else if argument = "emit" then ofCommand settings.verbose Settings.emitSwitches Settings.emitCommand rest
    else if argument = "help" then .error (helpOn rest)
    else if argument ≠ "--" ∧ Switches.isSwitch argument then
      match Settings.topSwitches.next settings argument with
      | .error e => .error e
      | .ok (.settled settings) | .ok (.waiting settings _) => parseFrom settings rest
    else .error (.misuse s!"unexpected argument {argument}")

/-- Reads a command line. -/
def parse (arguments : List String) : Except Halt CommandLine := parseFrom {} arguments

end CommandLine

end I2cTopology
