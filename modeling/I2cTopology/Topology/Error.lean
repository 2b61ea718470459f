import I2cTopology.Topology.Basic

/-!
# Why a document describes no board

Each failure names what is at fault; `TopologyError.message` puts it into words.
-/

namespace I2cTopology

/-- A multiplexer as a document places it. -/
structure MuxPlace where
  /-- Its number on the port, counted from one. -/
  number : Nat
  controller : Controller
  port : String
deriving DecidableEq

/-- The text form of a place. -/
def MuxPlace.text (p : MuxPlace) : String := s!"mux {p.number} on {p.controller.label} port {p.port}"

/-- Something that has an address. -/
inductive Addressee where
  | device (label : DeviceLabel)
  | mux (place : MuxPlace)
deriving DecidableEq

/-- The text form of something that has an address. -/
def Addressee.text : Addressee → String
  | .device label => label.text
  | .mux place => place.text

/-- What a device refers to. -/
inductive Reference where
  | bus (name : String)
  | controller (controller : Controller)
  | port (key : String) (controller : Controller)
  /-- The only port of a controller. -/
  | onlyPort (controller : Controller)
  | mux (number : UInt8) (controller : Controller) (port : String)
  | segment (segment mux : UInt8)
deriving DecidableEq

/-- The text form of a reference. -/
def Reference.text : Reference → String
  | .bus name => s!"bus \"{name}\""
  | .controller c => s!"controller {c.label}"
  | .port key c => s!"port {key} on {c.label}"
  | .onlyPort c => s!"port on {c.label}"
  | .mux number c key => s!"mux {number} on {c.label} port {key}"
  | .segment number muxNumber => s!"segment {number} of mux {muxNumber}"

/-- Why it is not clear which bus a device sits on. -/
inductive Ambiguity where
  | busAndController
  | neitherBusNorController
  | busAndPort
  | portOmitted
deriving DecidableEq

/-- The text form of an ambiguity. -/
def Ambiguity.text : Ambiguity → String
  | .busAndController => "names both a bus and a controller"
  | .neitherBusNorController => "names neither a bus nor a controller"
  | .busAndPort => "names both a bus and a port"
  | .portOmitted => "omits the port of a multi-port controller"

/-- By what a device is known within its kind. -/
inductive Identity where
  | name
  | refdes
deriving DecidableEq

/-- The text form of a way to know a device. -/
def Identity.text : Identity → String
  | .name => "name"
  | .refdes => "refdes"

/-- What a document may declare only so many of. -/
inductive Limited where
  | portsOfController
  | muxes
  | sensors
  | railsOfDevice
deriving DecidableEq

/-- The text form of what is limited. -/
def Limited.text : Limited → String
  | .portsOfController => "ports on one controller"
  | .muxes => "muxes"
  | .sensors => "sensors"
  | .railsOfDevice => "rails on one device"

/-- The tables whose rows are referred to by index. -/
inductive RowTable where
  | ports
  | muxes
  | devices
  | bindings
deriving DecidableEq

/-- The text form of a table. -/
def RowTable.text : RowTable → String
  | .ports => "port"
  | .muxes => "mux"
  | .devices => "device"
  | .bindings => "sensor binding"

/-- Why a document describes no board. -/
inductive TopologyError where
  | duplicateController (controller : Controller)
  | duplicateBusName (name : String)
  /-- The device refers to something that does not exist. -/
  | unknownReference (device : DeviceLabel) (reference : Reference)
  | ambiguousBus (device : DeviceLabel) (reason : Ambiguity)
  /-- The device names a multiplexer without a segment or a segment without a multiplexer. -/
  | incompleteRoute (device : DeviceLabel)
  /-- Two devices of a kind have the same name or reference designator. -/
  | duplicateIdentity (kind : String) (identity : Identity) (identifier : String)
  | invalidAddress (addressee : Addressee) (address : UInt8)
  | invalidSegmentCount (mux : MuxPlace) (segments limit : UInt8)
  /-- The address belongs to a multiplexer on the same port. -/
  | muxAddressConflict (addressee : Addressee) (controller : Controller) (port : String) (address : UInt8)
  /-- Two devices are at the same place and the later one is no alias. -/
  | addressConflict (device other : DeviceLabel)
  | railPhaseMismatch (device : DeviceLabel) (rails phases : Nat)
  | duplicateRail (kind rail : String)
  | invalidPin (controller : Controller) (port : String) (pin : UInt8)
  | tooMany (what : Limited) (count : Nat)
  /-- A row refers to a row that its table does not have. -/
  | missingRow (table : RowTable) (row : Nat)
deriving DecidableEq

/-- The text of a failure. -/
def TopologyError.message : TopologyError → String
  | .duplicateController controller => s!"controller {controller.label} is declared twice"
  | .duplicateBusName name => s!"bus \"{name}\" is declared twice"
  | .unknownReference device reference => s!"{device.text}: unknown {reference.text}"
  | .ambiguousBus device reason => s!"{device.text}: {reason.text}"
  | .incompleteRoute device => s!"{device.text}: mux and segment must be given together"
  | .duplicateIdentity kind identity identifier =>
    s!"duplicate {identity.text} \"{identifier}\" for device kind {kind}"
  | .invalidAddress addressee address =>
    s!"{addressee.text}: address {Hex.byte address} is not a usable 7-bit address"
  | .invalidSegmentCount mux segments limit =>
    s!"{mux.text}: {segments} segments declared, part supports 1 to {limit}"
  | .muxAddressConflict addressee controller port address =>
    s!"{addressee.text}: address {Hex.byte address} is already taken by a mux on {controller.label} port {port}"
  | .addressConflict device other => s!"{device.text} has the same bus, route, and address as {other.text}"
  | .railPhaseMismatch device rails phases => s!"{device.text}: {rails} rails but {phases} phase lists"
  | .duplicateRail kind rail => s!"rail {rail} is claimed twice by device kind {kind}"
  | .invalidPin controller port pin =>
    s!"{controller.label} port {port}: pin {pin} does not exist on a 16-pin GPIO port"
  | .tooMany what count => s!"too many {what.text}: {count}"
  | .missingRow table row => s!"the {table.text} table has no row {row}"

end I2cTopology
