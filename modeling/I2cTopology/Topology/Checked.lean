import I2cTopology.Topology.Resolution

/-!
# Resolution with each index, sum and shift checked

How the tables of a board come about on a machine with sums of 32 bits. The row of a bus is noted before its port is
added and the row of a place before its device is, so for a while rows are referred to that are not there yet. Each
index into a table, each sum and each shift of a mask is checked where it is taken, and ends the resolution if it is
out of range (`Stop`). `Document.resolve` says what the outcome is.
-/

namespace I2cTopology

/-- Why a resolution with checks stops. -/
inductive Stop where
  /-- A table of some length has no such row. -/
  | index (table : RowTable) (row length : Nat)
  /-- A sum does not fit 32 bits. -/
  | sum (a b : Nat)
  /-- A mask of 16 bits is shifted by too many places. -/
  | shift (places : Nat)
  /-- The document describes no board. -/
  | refused (error : TopologyError)
deriving DecidableEq

/-! ## What is checked -/

/-- A row of a table, taken by its index. -/
def rowAt {α : Type} (table : RowTable) (rows : List α) (row : Nat) : Except Stop α :=
  match rows[row]? with
  | some a => .ok a
  | none => .error (.index table row rows.length)

/-- A sum of 32 bits. -/
def wordSum (a b : Nat) : Except Stop Nat := if a + b < sensorIdLimit then .ok (a + b) else .error (.sum a b)

/-- A mask of 16 bits with one of them set. -/
def maskAt (places : Nat) : Except Stop (BitVec 16) :=
  if places < 16 then .ok (1#16 <<< places) else .error (.shift places)

/-- The only way to stop is a refusal. -/
def orRefused {α : Type} (x : Except TopologyError α) : Except Stop α := x.mapError .refused

/-- Goes on if `condition` holds and refuses the document otherwise. -/
def require (condition : Bool) (error : TopologyError) : Except Stop Unit := orRefused (ensure condition error)

/-- The ids of a run, whose end is a sum. -/
def SensorRange.checkedIds (r : SensorRange) : Except Stop (List Nat) :=
  (wordSum r.first r.count).map fun last => List.range' r.first (last - r.first)

/-- The number of sensors on a device, added up run by run. -/
def SensorBinding.checkedCount (b : SensorBinding) : Except Stop Nat :=
  b.ranges.foldlM (fun n r => wordSum n r.count) 0

/-- The tables while they are being built. -/
structure Resolver where
  topology : Topology := {}
  /-- The row of the port of each bus; it is noted before the port is added. -/
  buses : OrderedMap String Nat := {}
  /-- The row of the first device at each place; it is noted before the device is added. -/
  identities : OrderedMap DevicePlace Nat := {}

namespace Resolver

/-! ## Controllers, ports and multiplexers -/

/-- Adds a pin to a mask. -/
def addPin (ref : PortRef) (mask : BitVec 16) (pin : UInt8) : Except Stop (BitVec 16) := do
  require (pin < gpioPins) (.invalidPin ref.controller ref.key pin)
  let bit ← maskAt pin.toNat
  .ok (mask ||| bit)

/-- The pins of a set as a mask. -/
def pinSet (ref : PortRef) (set : PinSetDecl) : Except Stop PinDescriptor := do
  let mask ← set.pins.foldlM (addPin ref) 0
  .ok ⟨ref.controller, ref.index, set.gpioPort.getD ref.key, mask, set.function⟩

/-- Whether one of the multiplexers in `rows` has an address. -/
def hasAddress (muxes : List MuxDescriptor) (rows : List Nat) (address : UInt8) : Except Stop Bool :=
  rows.anyM fun row => (rowAt .muxes muxes row).map (·.address == address)

/-- Adds the next multiplexer of a port. -/
def addMux (ref : PortRef) (known : PortMuxes) (decl : MuxDecl) : Except Stop PortMuxes := do
  let place : MuxPlace := ⟨known.rows.length + 1, ref.controller, ref.key⟩
  let segments := decl.segments.getD decl.part.maxSegments
  let row := known.muxes.length
  require (isAssignable decl.address) (.invalidAddress (.mux place) decl.address)
  require (segments != 0 && segments ≤ decl.part.maxSegments)
    (.invalidSegmentCount place segments decl.part.maxSegments)
  let taken ← hasAddress known.muxes known.rows decl.address
  require (!taken) (.muxAddressConflict (.mux place) ref.controller ref.key decl.address)
  require (row < 256) (.tooMany .muxes (row + 1))
  let nreset ← decl.nreset.mapM (pinSet ref)
  let mux : MuxDescriptor :=
    { id := ⟨UInt8.ofNat row⟩, controller := ref.controller, port := ref.index, part := decl.part,
      address := decl.address, segments, nreset }
  .ok ⟨known.muxes ++ [mux], known.rows ++ [row]⟩

/-- Notes the row in which the port of a bus is going to be. -/
def noteBus (r : Resolver) (name : Option String) : Except Stop (OrderedMap String Nat) :=
  match name with
  | some name => do
    require (r.buses.get? name).isNone (.duplicateBusName name)
    .ok (r.buses.insert name r.topology.ports.length)
  | none => .ok r.buses

/-- Adds the port at `position` of a controller that declares `count` ports, and its row to those of the
controller. -/
def addPort (controller : Controller) (count : Nat) (s : Resolver × List Nat) (entry : (String × PortDecl) × Nat) :
    Except Stop (Resolver × List Nat) := do
  let ((key, decl), position) := entry
  let (r, slots) := s
  let ref : PortRef := ⟨controller, ⟨UInt8.ofNat position⟩, key⟩
  require (position < 256) (.tooMany .portsOfController count)
  let slot := r.topology.ports.length
  let buses ← r.noteBus decl.name
  let pins ← decl.pins.mapM (pinSet ref)
  let known ← decl.muxes.foldlM (addMux ref) ⟨r.topology.muxes, []⟩
  let row : BoardPort :=
    { controller, index := ref.index, key, name := decl.name, description := decl.description, pins,
      muxes := known.rows }
  let topology := { r.topology with ports := r.topology.ports ++ [row], muxes := known.muxes }
  .ok ({ r with topology, buses }, slots ++ [slot])

/-- Adds a controller with its ports. -/
def addController (r : Resolver) (decl : ControllerDecl) : Except Stop Resolver := do
  let controller : Controller := ⟨decl.controller⟩
  let count := decl.ports.size
  require (r.topology.controllers.all (·.controller != controller)) (.duplicateController controller)
  let (withPorts, slots) ← decl.ports.entries.zipIdx.foldlM (addPort controller count) (r, [])
  let row : BoardController :=
    { controller, mode := if decl.target then .target else .initiator, ports := slots }
  let topology := { withPorts.topology with controllers := withPorts.topology.controllers ++ [row] }
  .ok { withPorts with topology }

/-! ## Places of devices -/

/-- The row of the port that a device sits on. -/
def slotOf (r : Resolver) (d : DeviceDecl) : Except Stop Nat :=
  match d.bus, d.controller with
  | some _, some _ => .error (.refused (.ambiguousBus d.label .busAndController))
  | none, none => .error (.refused (.ambiguousBus d.label .neitherBusNorController))
  | some bus, none => do
    require d.port.isNone (.ambiguousBus d.label .busAndPort)
    match r.buses.get? bus with
    | some slot => .ok slot
    | none => .error (.refused (.unknownReference d.label (.bus bus)))
  | none, some number =>
    let controller : Controller := ⟨number⟩
    match r.topology.controllers.find? (·.controller == controller) with
    | none => .error (.refused (.unknownReference d.label (.controller controller)))
    | some c =>
      match d.port, c.ports with
      | some key, slots => do
        match ← slots.findM? fun slot => (rowAt .ports r.topology.ports slot).map (·.key == key) with
        | some slot => .ok slot
        | none => .error (.refused (.unknownReference d.label (.port key controller)))
      | none, [slot] => .ok slot
      | none, [] => .error (.refused (.unknownReference d.label (.onlyPort controller)))
      | none, _ => .error (.refused (.ambiguousBus d.label .portOmitted))

/-- The route to a device on the port in row `slot`. -/
def routeOf (t : Topology) (slot : Nat) (d : DeviceDecl) : Except Stop (Option Route) :=
  match d.mux, d.segment with
  | none, none => .ok none
  | some number, some segment => do
    let p ← rowAt .ports t.ports slot
    match Topology.muxOf p number with
    | none => .error (.refused (.unknownReference d.label (.mux number p.controller p.key)))
    | some row => do
      let m ← rowAt .muxes t.muxes row
      require (m.hasSegment ⟨segment⟩) (.unknownReference d.label (.segment segment number))
      .ok (some ⟨m.id, ⟨segment⟩⟩)
  | _, _ => .error (.refused (.incompleteRoute d.label))

/-- Notes the row in which the first device at a place is going to be. The device that is there already is looked up
only to tell of it. -/
def notePlace (r : Resolver) (row : Nat) (d : DeviceDecl) (place : DevicePlace) :
    Except Stop (OrderedMap DevicePlace Nat) :=
  match r.identities.get? place with
  | some first =>
    if d.isAlias then .ok r.identities
    else do
      let other ← rowAt .devices r.topology.devices first
      .error (.refused (.addressConflict d.label other.label))
  | none => .ok (r.identities.insert place row)

/-- A device with its place, which is noted. -/
def placeDevice (r : Resolver) (row : Nat) (d : DeviceDecl) :
    Except Stop (BoardDevice × OrderedMap DevicePlace Nat) := do
  let portSlot ← r.slotOf d
  let route ← routeOf r.topology portSlot d
  let p ← rowAt .ports r.topology.ports portSlot
  require (isAssignable d.address) (.invalidAddress (.device d.label) d.address)
  let taken ← hasAddress r.topology.muxes p.muxes d.address
  require (!taken) (.muxAddressConflict (.device d.label) p.controller p.key d.address)
  let place : DevicePlace := ⟨p.controller, p.index, route, d.address⟩
  let identities ← r.notePlace row d place
  .ok (
    { kind := d.device, names := d.names, description := d.description, place, portSlot, bus := p.name,
      refdes := d.refdes, removable := d.removable, isAlias := d.isAlias,
      power := d.power.map fun w => ⟨w.rails, w.phases, w.pmbus, w.multiphase⟩ }, identities)

/-! ## Sensors -/

/-- Takes a run of ids for the sensors of one kind, if there are any. A document is refused if there are too many ids
in use; the number of those of the kind is a sum that has to fit. -/
def takeIds (sensors : SensorDecl) (s : SensorRuns) (kind : SensorKind) : Except Stop SensorRuns :=
  let count := (sensors.count kind).toNat
  let first := s.table.total
  if count = 0 then .ok s
  else do
    require (first + count < sensorIdLimit) (.tooMany .sensors (first + count))
    let ofKind ← wordSum ((s.table.perKind.get? kind).getD 0) count
    .ok ⟨s.ranges ++ [⟨kind, first, count⟩],
      { s.table with total := first + count, perKind := s.table.perKind.insert kind ofKind }⟩

/-- Takes ids for the sensors of the device in `row`. -/
def addSensors (table : SensorTable) (row : Nat) (sensors : SensorDecl) : Except Stop SensorTable := do
  let runs ← SensorKind.all.foldlM (takeIds sensors) ⟨[], table⟩
  .ok { runs.table with bindings := runs.table.bindings ++ [⟨row, runs.ranges⟩] }

/-! ## Rails -/

/-- Whether a claim to a rail excludes one by the device in `row`, which is not in the table yet. -/
def excludes (devices : List BoardDevice) (row : Nat) (kind : String) (multiphase : Bool) (claim : RailClaim) :
    Except Stop Bool :=
  if claim.device = row then .ok true
  else (rowAt .devices devices claim.device).map fun other =>
    other.kind == kind && !(multiphase && other.power.any (·.multiphase))

/-- Claims one rail for the device in `row`. -/
def claimRail (devices : List BoardDevice) (row : Nat) (kind : String) (power : PowerDecl)
    (rails : OrderedMap String (List RailClaim)) (entry : String × Nat) :
    Except Stop (OrderedMap String (List RailClaim)) :=
  let (rail, index) := entry
  if rail.isEmpty then .ok rails
  else do
    require (index < 256) (.tooMany .railsOfDevice power.rails.length)
    let excluded ← ((rails.get? rail).getD []).anyM (excludes devices row kind power.multiphase)
    require (!excluded) (.duplicateRail kind rail)
    let claim : RailClaim := ⟨row, index, power.phases.bind (·[index]?)⟩
    .ok (rails.upsert rail fun claims => claims.getD [] ++ [claim])

/-- Claims the rails of a device. -/
def claimRails (t : Topology) (row : Nat) (d : DeviceDecl) (power : PowerDecl) :
    Except Stop (OrderedMap String (List RailClaim)) := do
  match power.phases with
  | some phases =>
    require (phases.length == power.rails.length)
      (.railPhaseMismatch d.label power.rails.length phases.length)
  | none => .ok ()
  power.rails.zipIdx.foldlM (claimRail t.devices row d.device power) t.rails

/-! ## Devices -/

/-- Adds a device at its position in the document. -/
def addDevice (r : Resolver) (entry : DeviceDecl × Nat) : Except Stop Resolver := do
  let (d, row) := entry
  let (device, identities) ← r.placeDevice row d
  let group ← orRefused (((r.topology.groups.get? device.kind).getD {}).add row device)
  let sensors ← addSensors r.topology.sensors row d.sensors
  let rails ← match d.power with
    | some power => claimRails r.topology row d power
    | none => .ok r.topology.rails
  let topology :=
    { r.topology with
      devices := r.topology.devices ++ [device], groups := r.topology.groups.insert device.kind group, sensors, rails }
  .ok { r with topology, identities }

end Resolver

/-- The resolution of a document with its checks. -/
def Document.checkedResolve (d : Document) : Except Stop Topology := do
  let r ← d.controllers.foldlM Resolver.addController {}
  let r ← d.devices.zipIdx.foldlM Resolver.addDevice r
  .ok r.topology

end I2cTopology
