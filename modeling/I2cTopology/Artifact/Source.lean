import I2cTopology.Artifact.Basic
import I2cTopology.Artifact.Error
import I2cTopology.Text.Quoted

/-!
# The text of an artifact

An artifact is written as one module of Rust. Text is a list of indented lines; what comes from a document's free
text stands in comments, in quotes, or in identifiers made for it.

- `Artifact.lines`: the lines of an artifact, or the first row that it lacks;
- `Artifact.render`: their text.
-/

namespace I2cTopology

/-! ## Lines -/

/-- An indented line. -/
structure Line where
  indent : Nat
  text : String
deriving DecidableEq

namespace Line

/-- The line with its end. -/
def render (l : Line) : String := String.ofList (List.replicate l.indent ' ') ++ l.text ++ "\n"

/-- An empty line. -/
def blank : Line := ⟨0, ""⟩

/-- Lines at the left margin. -/
def flush (texts : List String) : List Line := texts.map (⟨0, ·⟩)

/-- A comment. -/
def comment (text : String) : Line := ⟨0, "// " ++ text⟩

/-- The same lines one step to the right; empty ones stay as they are. -/
def inside (lines : List Line) : List Line :=
  lines.map fun l => if l = blank then l else { l with indent := l.indent + 4 }

/-- Lines between two others, one step to the right of them. -/
def block (first : String) (lines : List Line) (last : String) : List Line :=
  ⟨0, first⟩ :: inside lines ++ [⟨0, last⟩]

/-- Lines in braces. -/
def braced (head : String) (lines : List Line) : List Line := block (head ++ " \x7b") lines "\x7d"

end Line

open Line

/-- The lines that a list of items gives, or the first failure. -/
def linesOf {α : Type} (f : α → Except EmitError (List Line)) (items : List α) : Except EmitError (List Line) :=
  (items.mapM f).map List.flatten

theorem linesOf_cons {α : Type} (f : α → Except EmitError (List Line)) (a : α) (as : List α) :
    linesOf f (a :: as) = f a >>= fun ls => (linesOf f as).map (ls ++ ·) := by
  unfold linesOf
  rw [List.mapM_cons]
  cases f a with
  | error e => rfl
  | ok ls => cases as.mapM f <;> rfl

/-! ## Controller setup -/

namespace PinDescriptor

/-- The fields of a pin descriptor. -/
def fieldLines (p : PinDescriptor) : List Line := flush [
  s!"controller: Controller({p.controller.number}),",
  s!"port: PortIndex({p.port.number}),",
  s!"gpio_port: Cow::Borrowed({Quoted.quote p.gpioPort}),",
  s!"pins: {Hex.word p.pins},",
  s!"function: {p.function},"]

/-- A pin descriptor as an element of a list. -/
def lines (p : PinDescriptor) : List Line := block "PinDescriptor \x7b" p.fieldLines "\x7d,"

end PinDescriptor

namespace MuxDescriptor

/-- The reset pin of a multiplexer. -/
def nresetLines (m : MuxDescriptor) : List Line :=
  match m.nreset with
  | none => flush ["nreset: None,"]
  | some p => block "nreset: Some(PinDescriptor \x7b" p.fieldLines "\x7d),"

/-- A multiplexer as an element of a list. -/
def lines (m : MuxDescriptor) : List Line :=
  block "MuxDescriptor \x7b"
    (flush [
      s!"id: MuxId({m.id.number}),",
      s!"controller: Controller({m.controller.number}),",
      s!"port: PortIndex({m.port.number}),",
      s!"driver: MuxDriverKind::{m.part.variantName},",
      s!"address: {Hex.byte m.address},",
      s!"segments: {m.segments},"] ++ m.nresetLines)
    "\x7d,"

end MuxDescriptor

/-- A controller as an element of a list. -/
def ControllerDescriptor.lines (c : ControllerDescriptor) : List Line :=
  block "ControllerDescriptor \x7b"
    (flush [
      s!"controller: Controller({c.controller.number}),",
      s!"mode: ControllerMode::{c.mode.name},",
      s!"ports: {c.ports},"])
    "\x7d,"

namespace BusSection

/-- A function that gives a list. -/
def listFunction (name type : String) (count : Nat) (elements : List Line) : List Line :=
  blank :: braced s!"pub fn {name}() -> [{type}; {count}]" (block "[" elements "]")

/-- A function that gives the index of a port. -/
def portFunction (corePath function : String) (index : PortIndex) : List Line :=
  braced s!"pub const fn {function}() -> {corePath}::PortIndex"
    (flush [s!"{corePath}::PortIndex({index.number})"])

/-- Controller setup. -/
def lines (s : BusSection) (corePath : String) (standalone : Bool) : List Line :=
  flush [
    "use ::std::borrow::Cow;",
    s!"use {corePath}::\x7b",
    "    Controller, ControllerDescriptor, ControllerMode, MuxDescriptor, MuxDriverKind, MuxId,",
    "    PinDescriptor, PortIndex,",
    "\x7d;",
    "",
    s!"pub const NUM_CONTROLLERS: usize = {s.controllers.length};",
    s!"pub const NUM_MUXES: usize = {s.muxes.length};"] ++
  listFunction "controllers" "ControllerDescriptor" s.controllers.length
    (s.controllers.flatMap ControllerDescriptor.lines) ++
  listFunction "pins" "PinDescriptor" s.pins.length (s.pins.flatMap PinDescriptor.lines) ++
  (if s.mode = .initiator then
    listFunction "muxes" "MuxDescriptor" s.muxes.length (s.muxes.flatMap MuxDescriptor.lines)
  else []) ++
  blank :: braced "pub mod ports"
    ((if standalone then portFunction corePath "i2c_mock" ⟨0⟩ else []) ++
      s.ports.flatMap fun p => portFunction corePath p.function p.value)

end BusSection

/-! ## Devices -/

/-- A route as an expression. -/
def routeText : Option Route → String
  | none => "None"
  | some r => s!"Some(Route::new(MuxId({r.mux.number}), SegmentId({r.segment.number})))"

/-- The handle on the device at a place as an expression. -/
def DevicePlace.text (p : DevicePlace) : String :=
  s!"DeviceHandle::new(task, Controller({p.controller.number}), PortIndex({p.port.number}), {routeText p.route}, " ++
    s!"{Hex.byte p.address})"

/-- Text on one line, with a space for each line end in it. -/
def oneLine (text : String) : String :=
  String.ofList (text.toList.map fun c => if c = '\r' ∨ c = '\n' then ' ' else c)

/-- The comment on a device. -/
def DeviceRow.note (d : DeviceRow) : Line := Line.comment (oneLine d.comment)

/-- What the functions that give handles need. -/
def handleImports (corePath : String) : Line :=
  ⟨0, s!"use {corePath}::\x7bController, DeviceHandle, MuxId, PortIndex, Route, SegmentId, TaskId\x7d;"⟩

namespace Artifact

/-- A row of the device table. -/
def row (a : Artifact) (device : Nat) : Except EmitError DeviceRow :=
  match a.devices[device]? with
  | some d => .ok d
  | none => .error (.missingDevice device)

/-- A function that gives one handle. -/
def singleLines (a : Artifact) (f : Accessor Nat) : Except EmitError (List Line) := do
  let d ← a.row f.value
  .ok (blank :: braced s!"pub fn {f.function}(task: TaskId) -> DeviceHandle" [d.note, ⟨0, d.place.text⟩])

/-- A function that gives several handles. -/
def severalLines (a : Artifact) (f : Accessor (List Nat)) : Except EmitError (List Line) := do
  let elements ← linesOf (fun i => (a.row i).map fun d => [d.note, ⟨0, d.place.text ++ ","⟩]) f.value
  .ok (blank :: braced s!"pub fn {f.function}(task: TaskId) -> [DeviceHandle; {f.value.length}]"
    (block "[" elements "]"))

/-- A family of accessors, with a module for each driver kind. -/
def familyLines {α : Type} (a : Artifact) (name : String) (modules : List (KindModule α))
    (accessor : Accessor α → Except EmitError (List Line)) : Except EmitError (List Line) := do
  let body ← linesOf
    (fun m => (linesOf accessor m.accessors).map fun functions =>
      blank :: braced s!"pub mod {m.name}" (handleImports a.corePath :: functions))
    modules
  .ok (blank :: braced s!"pub mod {name}" body)

/-- A function that gives the devices that have a share in a rail. -/
def railLines (a : Artifact) (r : RailAccessor) : Except EmitError (List Line) := do
  let elements ← linesOf
    (fun (i, index) => (a.row i).map fun d => [d.note, ⟨0, s!"({d.place.text}, {index}),"⟩])
    r.entries
  .ok ([blank, comment r.rail] ++
    braced s!"pub fn {r.function}(task: TaskId) -> [(DeviceHandle, u8); {r.entries.length}]"
      (block "[" elements "]"))

/-- Functions that give handles. -/
def accessorLines (a : Artifact) (s : AccessorSection) : Except EmitError (List Line) :=
  if a.standalone then
    .ok (blank :: braced "pub mod devices" (handleImports a.corePath :: blank ::
      braced "pub fn mock(task: TaskId) -> DeviceHandle" (flush ["DeviceHandle::mock(task)"])))
  else do
    let byKind ← linesOf a.severalLines s.byKind
    let byName ← a.familyLines "by_name" s.byName a.singleLines
    let byRefdes ← a.familyLines "by_refdes" s.byRefdes a.singleLines
    let byBus ← a.familyLines "by_bus" s.byBus a.severalLines
    let rails ← linesOf a.railLines s.rails
    .ok (
      blank :: braced "pub mod devices" (handleImports a.corePath :: (byKind ++ byName ++ byRefdes ++ byBus)) ++
      blank :: braced "pub mod power" (handleImports a.corePath :: rails))

/-! ## Sensors -/

/-- Sensor ids as the elements of a list. -/
def idList (ids : List Nat) : String := ", ".intercalate (ids.map fun id => s!"SensorId({id})")

/-- The record of a device with sensors. -/
def instanceLines (a : Artifact) (columns : List SensorColumn) (s : SensorInstance) : Except EmitError (List Line) := do
  let d ← a.row s.device
  let fields := (columns.zip s.ids).map fun (column, ids) => s!"{column.field}: &[{idList ids}]"
  .ok [d.note, ⟨0, "Sensors \x7b " ++ ", ".intercalate fields ++ " \x7d,"⟩]

/-- The ids in one column over all devices. -/
def columnIds (m : SensorModule) (position : Nat) : List Nat :=
  m.instances.flatMap fun s => (s.ids[position]?).getD []

/-- The sensor ids of a driver kind. -/
def sensorModuleLines (a : Artifact) (m : SensorModule) : Except EmitError (List Line) := do
  let records ← linesOf (a.instanceLines m.columns) m.instances
  let imports : Line := ⟨0, s!"use {a.corePath}::SensorId;"⟩
  let fields := m.columns.map fun column => s!"pub {column.field}: &'static [SensorId],"
  let ids := m.columns.zipIdx.map fun (column, position) =>
    let ids := columnIds m position
    s!"pub const {column.constant}: [SensorId; {ids.length}] = [{idList ids}];"
  let names := m.instances.zipIdx.flatMap fun (s, position) => s.constants.map fun constant =>
    s!"pub const {constant}: super::Sensors = super::ALL[{position}];"
  .ok (blank :: braced s!"pub mod {m.name}" (
    [imports, blank, ⟨0, "#[derive(Debug, Clone, Copy, PartialEq, Eq)]"⟩] ++
    braced "pub struct Sensors" (flush fields) ++
    blank :: block s!"pub const ALL: [Sensors; {m.instances.length}] = [" records "];" ++
    blank :: braced "pub mod ids" (imports :: blank :: flush ids) ++
    blank :: braced "pub mod by_name" (flush names)))

/-- Sensor ids. -/
def sensorLines (a : Artifact) (s : SensorSection) : Except EmitError (List Line) := do
  let modules ← linesOf a.sensorModuleLines s.groups
  let counts := s.perKind.map fun n => s!"pub const {n.constant}: usize = {n.count};"
  .ok (blank :: braced "pub mod sensors" (flush (s!"pub const NUM_SENSORS: usize = {s.total};" :: counts) ++ modules))

/-! ## Validation -/

/-- The check of a device as an expression. -/
def checkText : Option String → String
  | none => "None"
  | some path => s!"Some({path} as CheckFn)"

/-- The arm of the device in row `index`. -/
def armText (index : Nat) (place : DevicePlace) (check : Option String) : String :=
  s!"{index} => ({place.text}, {checkText check}),"

/-- One arm of the validation. -/
def armLines (a : Artifact) (arm : ValidationArm) : Except EmitError (List Line) := do
  let d ← a.row arm.device
  .ok [d.note, ⟨0, armText arm.device d.place arm.check⟩]

/-- The validation of `count` devices, with the lines of its arms. -/
def validationModule (corePath : String) (count : Nat) (arms : List Line) : List Line :=
  blank :: braced "pub mod validation" (
    flush [
      s!"use {corePath}::\x7b",
      "    run_check, CheckFn, Controller, DeviceHandle, MuxId, PortIndex, Route, SegmentId,",
      "    TaskId, Transport, ValidateError, ValidationOutcome,",
      "\x7d;",
      "",
      s!"pub const NUM_DEVICES: usize = {count};",
      "",
      "pub fn validate(",
      "    transport: &dyn Transport,",
      "    task: TaskId,",
      "    index: usize,"] ++
    braced ") -> Result<ValidationOutcome, ValidateError>" (
      block "let (device, check): (DeviceHandle, Option<CheckFn>) = match index \x7b"
        (arms ++ flush ["_ => return Err(ValidateError::NoDevice(index)),"]) "\x7d;" ++
      flush ["Ok(run_check(&device, check, transport)?)"]))

/-- The validation of every device. -/
def validationLines (a : Artifact) (arms : List ValidationArm) : Except EmitError (List Line) :=
  (linesOf a.armLines arms).map (validationModule a.corePath arms.length)

/-! ## Artifacts -/

/-- The first line of every artifact. -/
def header : String := "// Generated by i2c-codegen. Do not edit."

/-- What precedes the module. -/
def preamble : List Line := flush [
  header, "", "#[allow(", "    dead_code,", "    missing_docs,", "    unreachable_code,", "    unused_imports,",
  "    clippy::all,", "    clippy::pedantic,", "    clippy::nursery", ")]"]

/-- The lines of a part, if the artifact has it. -/
def partLines {α : Type} (lines : α → Except EmitError (List Line)) : Option α → Except EmitError (List Line)
  | none => .ok []
  | some s => lines s

/-- The lines of an artifact. -/
def lines (a : Artifact) : Except EmitError (List Line) := do
  let bus ← partLines (fun s => .ok (s.lines a.corePath a.standalone)) a.bus
  let accessors ← partLines a.accessorLines a.accessors
  let sensors ← partLines a.sensorLines a.sensors
  let validation ← partLines a.validationLines a.validation
  .ok (preamble ++ braced s!"pub mod {a.moduleName}" (bus ++ accessors ++ sensors ++ validation))

/-- The text of an artifact. -/
def render (a : Artifact) : Except EmitError String :=
  a.lines.map fun lines => String.join (lines.map Line.render)

end Artifact

end I2cTopology
