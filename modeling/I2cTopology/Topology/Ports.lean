import I2cTopology.Document.Declaration
import I2cTopology.Topology.Ensure
import I2cTopology.Topology.Error

/-!
# Controllers, ports and multiplexers of a document

Each step checks one declaration against the tables so far and adds its rows to them.
-/

namespace I2cTopology

namespace Topology

/-- The row of a port. -/
def port (t : Topology) (slot : Nat) : Except TopologyError BoardPort :=
  match t.ports[slot]? with
  | some p => .ok p
  | none => .error (.missingRow .ports slot)

/-- The row of a device. -/
def device (t : Topology) (row : Nat) : Except TopologyError BoardDevice :=
  match t.devices[row]? with
  | some d => .ok d
  | none => .error (.missingRow .devices row)

end Topology

/-- The row of a multiplexer. -/
def muxRow (muxes : List MuxDescriptor) (row : Nat) : Except TopologyError MuxDescriptor :=
  match muxes[row]? with
  | some m => .ok m
  | none => .error (.missingRow .muxes row)

/-- Whether one of the multiplexers in `rows` has an address. -/
def muxHasAddress (muxes : List MuxDescriptor) (rows : List Nat) (address : UInt8) : Except TopologyError Bool :=
  rows.anyM fun row => (muxRow muxes row).map (·.address == address)

/-- A port while its declaration is being read. -/
structure PortRef where
  controller : Controller
  index : PortIndex
  key : String
deriving DecidableEq

/-! ## Pins -/

/-- The number of pins of a GPIO port. -/
def gpioPins : UInt8 := 16

/-- Adds a pin to a mask. -/
def addPin (ref : PortRef) (mask : BitVec 16) (pin : UInt8) : Except TopologyError (BitVec 16) := do
  ensure (pin < gpioPins) (.invalidPin ref.controller ref.key pin)
  .ok (mask ||| 1#16 <<< pin.toNat)

/-- The pins of a set as a mask. Without a GPIO port of its own a set belongs to the one named by the port's key. -/
def PinSetDecl.resolve (ref : PortRef) (set : PinSetDecl) : Except TopologyError PinDescriptor := do
  let mask ← set.pins.foldlM (addPin ref) 0
  .ok ⟨ref.controller, ref.index, set.gpioPort.getD ref.key, mask, set.function⟩

/-! ## Multiplexers -/

/-- The table of multiplexers and the rows of it that belong to the port at hand. -/
structure PortMuxes where
  muxes : List MuxDescriptor
  rows : List Nat

/-- Adds the next multiplexer of a port. Its id is its row, so it has to fit a byte. -/
def PortMuxes.add (ref : PortRef) (known : PortMuxes) (decl : MuxDecl) : Except TopologyError PortMuxes := do
  let place : MuxPlace := ⟨known.rows.length + 1, ref.controller, ref.key⟩
  let segments := decl.segments.getD decl.part.maxSegments
  let row := known.muxes.length
  ensure (isAssignable decl.address) (.invalidAddress (.mux place) decl.address)
  ensure (segments != 0 && segments ≤ decl.part.maxSegments)
    (.invalidSegmentCount place segments decl.part.maxSegments)
  let taken ← muxHasAddress known.muxes known.rows decl.address
  ensure (!taken) (.muxAddressConflict (.mux place) ref.controller ref.key decl.address)
  ensure (row < 256) (.tooMany .muxes (row + 1))
  let nreset ← decl.nreset.mapM (·.resolve ref)
  let mux : MuxDescriptor :=
    { id := ⟨UInt8.ofNat row⟩, controller := ref.controller, port := ref.index, part := decl.part,
      address := decl.address, segments, nreset }
  .ok ⟨known.muxes ++ [mux], known.rows ++ [row]⟩

/-! ## Ports and controllers -/

namespace Topology

/-- Adds the port at `position` of a controller that declares `count` ports. -/
def addPort (controller : Controller) (count : Nat) (t : Topology) (entry : (String × PortDecl) × Nat) :
    Except TopologyError Topology := do
  let ((key, decl), position) := entry
  let ref : PortRef := ⟨controller, ⟨UInt8.ofNat position⟩, key⟩
  ensure (position < 256) (.tooMany .portsOfController count)
  match decl.name with
  | some name => ensure (t.ports.all (·.name != some name)) (.duplicateBusName name)
  | none => .ok ()
  let pins ← decl.pins.mapM (·.resolve ref)
  let known ← decl.muxes.foldlM (PortMuxes.add ref) ⟨t.muxes, []⟩
  let row : BoardPort :=
    { controller, index := ref.index, key, name := decl.name, description := decl.description, pins,
      muxes := known.rows }
  .ok { t with ports := t.ports ++ [row], muxes := known.muxes }

/-- Adds a controller with its ports. -/
def addController (t : Topology) (decl : ControllerDecl) : Except TopologyError Topology := do
  let controller : Controller := ⟨decl.controller⟩
  let count := decl.ports.size
  ensure (t.controllers.all (·.controller != controller)) (.duplicateController controller)
  let withPorts ← decl.ports.entries.zipIdx.foldlM (addPort controller count) t
  let row : BoardController :=
    { controller, mode := if decl.target then .target else .initiator,
      ports := List.range' t.ports.length count }
  .ok { withPorts with controllers := withPorts.controllers ++ [row] }

end Topology

end I2cTopology
