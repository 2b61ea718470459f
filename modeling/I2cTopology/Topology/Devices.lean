import I2cTopology.Topology.Ports

/-!
# Devices of a document

A device is placed on a port, possibly behind a multiplexer, then entered under its kind, given its sensor ids and
its shares in power rails, in this order; the first check that fails ends the resolution.
-/

namespace I2cTopology

/-- The label of a declared device. -/
def DeviceDecl.label (d : DeviceDecl) : DeviceLabel := ⟨d.device, d.names.head?, d.address⟩

/-! ## Places -/

namespace Topology

/-- The port that a device sits on: the port of the bus that it names, or the port of the controller that it names,
by its key or as the only one. -/
def slotOf (t : Topology) (d : DeviceDecl) : Except TopologyError Nat :=
  match d.bus, d.controller with
  | some _, some _ => .error (.ambiguousBus d.label .busAndController)
  | none, none => .error (.ambiguousBus d.label .neitherBusNorController)
  | some bus, none => do
    ensure d.port.isNone (.ambiguousBus d.label .busAndPort)
    match t.ports.findIdx? (·.name == some bus) with
    | some slot => .ok slot
    | none => .error (.unknownReference d.label (.bus bus))
  | none, some number =>
    let controller : Controller := ⟨number⟩
    match t.controllers.find? (·.controller == controller) with
    | none => .error (.unknownReference d.label (.controller controller))
    | some c =>
      match d.port, c.ports with
      | some key, slots => do
        match ← slots.findM? fun slot => (t.port slot).map (·.key == key) with
        | some slot => .ok slot
        | none => .error (.unknownReference d.label (.port key controller))
      | none, [slot] => .ok slot
      | none, [] => .error (.unknownReference d.label (.onlyPort controller))
      | none, _ => .error (.ambiguousBus d.label .portOmitted)

/-- The row of the multiplexer that a device on `p` means by its number, which counts from one. -/
def muxOf (p : BoardPort) (number : UInt8) : Option Nat :=
  if number = 0 then none else p.muxes[number.toNat - 1]?

/-- The route to a device on port `p`. -/
def routeOf (t : Topology) (p : BoardPort) (d : DeviceDecl) : Except TopologyError (Option Route) :=
  match d.mux, d.segment with
  | none, none => .ok none
  | some number, some segment =>
    match muxOf p number with
    | none => .error (.unknownReference d.label (.mux number p.controller p.key))
    | some row => do
      let m ← muxRow t.muxes row
      ensure (m.hasSegment ⟨segment⟩) (.unknownReference d.label (.segment segment number))
      .ok (some ⟨m.id, ⟨segment⟩⟩)
  | _, _ => .error (.incompleteRoute d.label)

/-- Whether a device may be at a place: the first device there, if any, has to be one that it is an alias of. -/
def checkPlace (t : Topology) (d : DeviceDecl) (place : DevicePlace) : Except TopologyError Unit :=
  match t.devices.find? (·.place == place) with
  | some other => ensure d.isAlias (.addressConflict d.label other.label)
  | none => .ok ()

/-- A device with its place. -/
def placeDevice (t : Topology) (d : DeviceDecl) : Except TopologyError BoardDevice := do
  let portSlot ← t.slotOf d
  let p ← t.port portSlot
  let route ← t.routeOf p d
  ensure (isAssignable d.address) (.invalidAddress (.device d.label) d.address)
  let taken ← muxHasAddress t.muxes p.muxes d.address
  ensure (!taken) (.muxAddressConflict (.device d.label) p.controller p.key d.address)
  let place : DevicePlace := ⟨p.controller, p.index, route, d.address⟩
  t.checkPlace d place
  .ok
    { kind := d.device, names := d.names, description := d.description, place, portSlot, bus := p.name,
      refdes := d.refdes, removable := d.removable, isAlias := d.isAlias,
      power := d.power.map fun w => ⟨w.rails, w.phases, w.pmbus, w.multiphase⟩ }

end Topology

/-! ## Groups -/

/-- Enters `row` under an identifier that no other device of the kind may have. -/
def identify (kind : String) (identity : Identity) (row : Nat) (known : OrderedMap String Nat) (identifier : String) :
    Except TopologyError (OrderedMap String Nat) := do
  ensure (known.get? identifier).isNone (.duplicateIdentity kind identity identifier)
  .ok (known.insert identifier row)

/-- Adds the device in `row` to the group of its kind. -/
def DeviceGroup.add (g : DeviceGroup) (row : Nat) (d : BoardDevice) : Except TopologyError DeviceGroup := do
  let byName ← d.names.foldlM (identify d.kind .name row) g.byName
  let byRefdes ← d.refdes.toList.foldlM (identify d.kind .refdes row) g.byRefdes
  let byBus := d.bus.toList.foldl (fun m bus => m.upsert bus fun rows => rows.getD [] ++ [row]) g.byBus
  .ok { devices := g.devices ++ [row], byName, byRefdes, byBus }

/-! ## Sensors -/

/-- The number of sensor ids that there are. -/
def sensorIdLimit : Nat := 0x100000000

/-- The runs of ids of a device so far and the table that they are taken from. -/
structure SensorRuns where
  ranges : List SensorRange
  table : SensorTable

/-- Takes a run of ids for the sensors of one kind, if there are any. -/
def SensorRuns.take (sensors : SensorDecl) (s : SensorRuns) (kind : SensorKind) : Except TopologyError SensorRuns :=
  let count := (sensors.count kind).toNat
  let first := s.table.total
  if count = 0 then .ok s
  else do
    ensure (first + count < sensorIdLimit) (.tooMany .sensors (first + count))
    .ok ⟨s.ranges ++ [⟨kind, first, count⟩],
      { s.table with total := first + count, perKind := s.table.perKind.upsert kind fun n => n.getD 0 + count }⟩

/-- Takes ids for the sensors of the device in `row`, kind after kind in canonical order. -/
def SensorTable.add (table : SensorTable) (row : Nat) (sensors : SensorDecl) : Except TopologyError SensorTable := do
  let runs ← SensorKind.all.foldlM (SensorRuns.take sensors) ⟨[], table⟩
  .ok { runs.table with bindings := runs.table.bindings ++ [⟨row, runs.ranges⟩] }

/-! ## Rails -/

namespace Topology

/-- Whether a claim to a rail excludes one by the device in `row`. Devices of different kinds may share a rail, and so
may devices of one kind that all are phase controllers of it; no device may claim a rail twice. -/
def excludes (t : Topology) (row : Nat) (kind : String) (multiphase : Bool) (claim : RailClaim) :
    Except TopologyError Bool :=
  if claim.device = row then .ok true
  else (t.device claim.device).map fun other =>
    other.kind == kind && !(multiphase && other.power.any (·.multiphase))

/-- Claims one rail for the device in `row`. An empty name only holds a place. -/
def claimRail (t : Topology) (row : Nat) (kind : String) (power : PowerDecl)
    (rails : OrderedMap String (List RailClaim)) (entry : String × Nat) :
    Except TopologyError (OrderedMap String (List RailClaim)) :=
  let (rail, index) := entry
  if rail.isEmpty then .ok rails
  else do
    ensure (index < 256) (.tooMany .railsOfDevice power.rails.length)
    let excluded ← ((rails.get? rail).getD []).anyM (t.excludes row kind power.multiphase)
    ensure (!excluded) (.duplicateRail kind rail)
    let claim : RailClaim := ⟨row, index, power.phases.bind (·[index]?)⟩
    .ok (rails.upsert rail fun claims => claims.getD [] ++ [claim])

/-- Claims the rails of a device. -/
def claimRails (t : Topology) (row : Nat) (d : DeviceDecl) (power : PowerDecl) :
    Except TopologyError (OrderedMap String (List RailClaim)) := do
  match power.phases with
  | some phases =>
    ensure (phases.length == power.rails.length)
      (.railPhaseMismatch d.label power.rails.length phases.length)
  | none => .ok ()
  power.rails.zipIdx.foldlM (t.claimRail row d.device power) t.rails

/-! ## Devices -/

/-- Adds a device. -/
def addDevice (t : Topology) (d : DeviceDecl) : Except TopologyError Topology := do
  let row := t.devices.length
  let device ← t.placeDevice d
  let group ← ((t.groups.get? device.kind).getD {}).add row device
  let sensors ← t.sensors.add row d.sensors
  let rails ← match d.power with
    | some power => t.claimRails row d power
    | none => .ok t.rails
  .ok { t with devices := t.devices ++ [device], groups := t.groups.insert device.kind group, sensors, rails }

end Topology

end I2cTopology
