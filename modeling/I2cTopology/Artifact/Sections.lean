import I2cTopology.Artifact.Basic
import I2cTopology.Artifact.Identifier
import I2cTopology.Bus.Check
import I2cTopology.LogRecord
import I2cTopology.Topology.Ensure

/-!
# The artifact of a board

Each part of an artifact is made from the board alone, so which other parts are asked for makes no difference to it.
The parts are made in the order of `Disposition.all`, and the first failure is the one that is found.

- `Artifact.ofTopology_eq_ok_iff`: what an artifact is made of.
-/

namespace I2cTopology

/-! ## Devices and validation -/

/-- The row of a device. -/
def DeviceRow.ofDevice (d : BoardDevice) : DeviceRow where
  kind := d.kind
  comment := match d.description with
    | some description => s!"{d.label.text}: {description}"
    | none => d.label.text
  place := d.place

/-- The path of the check of a driver kind: the one given in the options, or the one of a check that is shipped. -/
def EmitOptions.checkPath? (o : EmitOptions) (kind : String) : Option String :=
  match o.checks.get? kind with
  | some path => some path
  | none => (Check.builtinPath? kind).map fun path => s!"{o.corePath}::{path}"

/-- One arm for each row of the device table. -/
def EmitOptions.validationArms (o : EmitOptions) (rows : List DeviceRow) : List ValidationArm :=
  rows.zipIdx.map fun (row, i) => ⟨i, o.checkPath? row.kind⟩

/-! ## Controller setup -/

namespace BusSection

/-- Adds the port in `slot` of a controller. -/
def addPort (t : Topology) (controller : Controller) (acc : Scope × BusSection) (slot : Nat) :
    Except EmitError (Scope × BusSection) :=
  match t.ports[slot]? with
  | none => .error (.missingRow .ports slot)
  | some p => do
    let function := s!"i2c{controller.number}_{Identifier.snake p.key}"
    let scope ← acc.1.claim function s!"port {p.key} of {controller.label}"
    .ok (scope, { acc.2 with pins := acc.2.pins ++ p.pins, ports := acc.2.ports ++ [⟨function, p.index⟩] })

/-- Adds a controller. Only an initiator has use for the multiplexers on its ports. -/
def addController (t : Topology) (acc : Scope × BusSection) (c : BoardController) :
    Except EmitError (Scope × BusSection) := do
  let mode := acc.2.mode
  ensure (c.ports.length < 256) (.portCount c.controller)
  let row : ControllerDescriptor := ⟨c.controller, mode, UInt8.ofNat c.ports.length⟩
  let (scope, s) ← c.ports.foldlM (addPort t c.controller)
    (acc.1, { acc.2 with controllers := acc.2.controllers ++ [row] })
  .ok (scope, if mode = .initiator then { s with muxes := s.muxes ++ t.muxesOf c.controller } else s)

/-- The setup of the controllers that operate in `mode`. -/
def ofTopology (t : Topology) (mode : ControllerMode) (standalone : Bool) : Except EmitError BusSection :=
  if standalone then .ok { mode }
  else do
    let controllers := t.controllersIn mode
    ensure (mode != .target || controllers.length == 1) (.targetCount controllers.length)
    let (_, s) ← controllers.foldlM (addController t) ({}, { mode })
    .ok s

end BusSection

/-! ## Accessors -/

namespace AccessorSection

/-- Accessors for the entries of a map, named by its keys. -/
def ofEntries {α : Type} (owner : String → String) (entries : List (String × α)) :
    Except EmitError (List (Accessor α)) := do
  let _ ← Scope.claimAll {} (entries.map fun (key, _) => (Identifier.snake key, owner key))
  .ok (entries.map fun (key, value) => ⟨Identifier.snake key, value⟩)

/-- A module, if there is anything to put into it. -/
def moduleOf {α : Type} (name : String) (accessors : List (Accessor α)) : List (KindModule α) :=
  if accessors.isEmpty then [] else [⟨name, accessors⟩]

/-- Adds the accessors of a driver kind. -/
def addKind (acc : Scope × AccessorSection) (entry : String × DeviceGroup) :
    Except EmitError (Scope × AccessorSection) := do
  let (kind, g) := entry
  let name := Identifier.snake kind
  let scope ← acc.1.claim name s!"device kind {kind}"
  let byName ← ofEntries (fun key => s!"{kind} name {key}") g.byName.entries
  let byRefdes ← ofEntries (fun key => s!"{kind} refdes {key}") g.byRefdes.entries
  let byBus ← ofEntries (fun key => s!"{kind} on bus {key}") g.byBus.entries
  .ok (scope,
    { acc.2 with
      byKind := acc.2.byKind ++ [⟨name, g.devices⟩]
      byName := acc.2.byName ++ moduleOf name byName
      byRefdes := acc.2.byRefdes ++ moduleOf name byRefdes
      byBus := acc.2.byBus ++ moduleOf name byBus })

/-- The accessors of the rails. -/
def railsOf (t : Topology) : Except EmitError (List RailAccessor) := do
  let _ ← Scope.claimAll {} (t.rails.keys.map fun rail => (Identifier.snake rail, s!"rail {rail}"))
  .ok (t.rails.entries.map fun (rail, claims) =>
    ⟨Identifier.snake rail, rail, claims.map fun claim => (claim.device, claim.index)⟩)

/-- The accessors of a board. -/
def ofTopology (t : Topology) (standalone : Bool) : Except EmitError AccessorSection :=
  if standalone then .ok {}
  else do
    let (_, s) ← t.groups.entries.foldlM addKind ({}, {})
    let rails ← railsOf t
    .ok { s with rails }

end AccessorSection

/-! ## Sensors -/

namespace SensorSection

/-- The kinds of sensors that some of the devices have. -/
def kindsOf (t : SensorTable) (devices : List Nat) : List SensorKind :=
  SensorKind.all.filter fun kind => devices.any fun d => (t.ranges d).any (·.kind == kind)

/-- Adds a device with sensors, under the names that it has within its kind. -/
def addInstance (t : Topology) (kind : String) (kinds : List SensorKind) (acc : Scope × List SensorInstance)
    (device : Nat) : Except EmitError (Scope × List SensorInstance) :=
  match t.sensors.bindings[device]?, t.devices[device]? with
  | none, _ => .error (.missingRow .bindings device)
  | _, none => .error (.missingRow .devices device)
  | some binding, some d => do
    let constants := d.names.map Identifier.upper
    let scope ← acc.1.claimAll (d.names.map fun name => (Identifier.upper name, s!"{kind} name {name}"))
    .ok (scope, acc.2 ++ [⟨device, constants, kinds.map binding.ids⟩])

/-- Adds the sensors of a driver kind, if its devices have any. -/
def addKind (t : Topology) (acc : Scope × List SensorModule) (entry : String × DeviceGroup) :
    Except EmitError (Scope × List SensorModule) :=
  let (kind, g) := entry
  let devices := g.devices.filter fun d => !(t.sensors.ranges d).isEmpty
  if devices.isEmpty then .ok acc
  else do
    let kinds := kindsOf t.sensors devices
    let name := Identifier.snake kind
    let scope ← acc.1.claim name s!"{kind} sensors"
    let (_, instances) ← devices.foldlM (addInstance t kind kinds) ({}, [])
    let columns := kinds.map fun k => ⟨k, Identifier.snake k.name, Identifier.upper k.name⟩
    .ok (scope, acc.2 ++ [⟨name, columns, instances⟩])

/-- The constant that holds the number of sensors of a kind. -/
def countConstant (kind : SensorKind) : String := s!"NUM_{Identifier.upper kind.name}_SENSORS"

/-- The sensor ids of a board. -/
def ofTopology (t : Topology) (standalone : Bool) : Except EmitError SensorSection :=
  if standalone then .ok { total := 0, perKind := SensorKind.all.map fun k => ⟨k, countConstant k, 0⟩ }
  else do
    let (_, groups) ← t.groups.entries.foldlM (addKind t) ({}, [])
    .ok
      { total := t.sensors.total
        perKind := SensorKind.all.map fun k => ⟨k, countConstant k, (t.sensors.perKind.get? k).getD 0⟩
        groups
        bindings := t.sensors.bindings }

end SensorSection

/-! ## The artifact -/

namespace Artifact

/-- A part, if it is wanted. -/
def part {α : Type} (wanted : Bool) (made : Except EmitError α) : Except EmitError (Option α) :=
  if wanted then made.map some else .ok none

/-- Controller setup for whichever mode is wanted. -/
def busPart (t : Topology) (dispositions : List Disposition) (standalone : Bool) :
    Except EmitError (Option BusSection) :=
  if dispositions.contains .initiator then part true (BusSection.ofTopology t .initiator standalone)
  else part (dispositions.contains .target) (BusSection.ofTopology t .target standalone)

/-- The artifact of a board with the wanted parts. Their order and repetitions do not matter. -/
def ofTopology (t : Topology) (dispositions : List Disposition) (o : EmitOptions) : Except EmitError Artifact := do
  ensure (!(dispositions.contains .initiator && dispositions.contains .target)) .conflictingDispositions
  let devices := if o.standalone then [] else t.devices.map DeviceRow.ofDevice
  let bus ← busPart t dispositions o.standalone
  let accessors ← part (dispositions.contains .devices) (AccessorSection.ofTopology t o.standalone)
  let sensors ← part (dispositions.contains .sensors) (SensorSection.ofTopology t o.standalone)
  let validation ← part (dispositions.contains .validation) (.ok (o.validationArms devices))
  .ok
    { moduleName := o.moduleName, corePath := o.corePath, standalone := o.standalone, devices, bus, accessors,
      sensors, validation }

/-- What an artifact of a board is made of. -/
structure MadeOf (a : Artifact) (t : Topology) (dispositions : List Disposition) (o : EmitOptions) : Prop where
  compatible : ¬(.initiator ∈ dispositions ∧ .target ∈ dispositions)
  moduleName_eq : a.moduleName = o.moduleName
  corePath_eq : a.corePath = o.corePath
  standalone_eq : a.standalone = o.standalone
  devices_eq : a.devices = if o.standalone then [] else t.devices.map DeviceRow.ofDevice
  bus_eq : busPart t dispositions o.standalone = .ok a.bus
  accessors_eq : part (decide (.devices ∈ dispositions)) (AccessorSection.ofTopology t o.standalone) = .ok a.accessors
  sensors_eq : part (decide (.sensors ∈ dispositions)) (SensorSection.ofTopology t o.standalone) = .ok a.sensors
  validation_eq : a.validation = if .validation ∈ dispositions then some (o.validationArms a.devices) else none

@[simp] theorem part_true {α : Type} (made : Except EmitError α) : part true made = made.map some := rfl

@[simp] theorem part_false {α : Type} (made : Except EmitError α) : part false made = .ok none := rfl

@[simp] theorem part_ok {α : Type} (wanted : Bool) (s : α) :
    part wanted (.ok s) = .ok (if wanted then some s else none) := by
  cases wanted <;> rfl

/-- A part is there if it is wanted and can be made. -/
theorem part_eq_some_iff {α : Type} {wanted : Bool} {made : Except EmitError α} {s : α} :
    part wanted made = .ok (some s) ↔ wanted = true ∧ made = .ok s := by
  cases wanted <;> simp

theorem ofTopology_eq_ok_iff {t : Topology} {dispositions : List Disposition} {o : EmitOptions} {a : Artifact} :
    ofTopology t dispositions o = .ok a ↔ a.MadeOf t dispositions o := by
  have hcompatible : (!(decide (.initiator ∈ dispositions) && decide (.target ∈ dispositions))) = true ↔
      ¬(.initiator ∈ dispositions ∧ .target ∈ dispositions) := by
    rw [Bool.not_eq_true', ← Bool.not_eq_true, Bool.and_eq_true, decide_eq_true_eq, decide_eq_true_eq]
  simp only [ofTopology, List.contains_eq_mem, bind_eq_ok_iff, ensure_eq_ok_iff, hcompatible, exists_const, part_ok,
    Except.ok.injEq, exists_eq_left', decide_eq_true_eq]
  constructor
  · rintro ⟨hparts, bus, hbus, accessors, haccessors, sensors, hsensors, rfl⟩
    exact ⟨hparts, rfl, rfl, rfl, rfl, hbus, haccessors, hsensors, rfl⟩
  · rintro ⟨hparts, hname, hcorePath, hstandalone, hdevices, hbus, haccessors, hsensors, hvalidation⟩
    refine ⟨hparts, a.bus, hbus, a.accessors, haccessors, a.sensors, hsensors, ?_⟩
    rw [← hdevices, ← hvalidation, ← hname, ← hcorePath, ← hstandalone]

/-- What is reported of an artifact. -/
def record (a : Artifact) (dispositions : List Disposition) : LogRecord :=
  let wanted := Disposition.all.filter dispositions.contains
  .debug s!"artifact `{a.moduleName}`: {wanted.length} disposition(s), {a.devices.length} device(s)"

end Artifact

end I2cTopology
