import I2cTopology.Bus.Descriptor
import I2cTopology.Bus.Sensor
import I2cTopology.OrderedMap
import I2cTopology.Text.Hex

/-!
# Resolved topologies

The tables of a board. Rows refer to rows of other tables by index, tables are in declaration order, and maps list
their keys in the order of first appearance.
-/

namespace I2cTopology

/-- What identifies a device to a reader: its kind, its first name and its address. -/
structure DeviceLabel where
  kind : String
  name : Option String
  address : UInt8
deriving DecidableEq

/-- The text form of a label. -/
def DeviceLabel.text (l : DeviceLabel) : String :=
  match l.name with
  | none => s!"{l.kind} at {Hex.byte l.address}"
  | some name => s!"{l.kind} \"{name}\" at {Hex.byte l.address}"

/-- A controller with its ports. -/
structure BoardController where
  controller : Controller
  mode : ControllerMode
  /-- The rows of the ports in the port table, in port order. -/
  ports : List Nat
deriving DecidableEq

/-- A port of a controller. -/
structure BoardPort where
  controller : Controller
  index : PortIndex
  /-- The key that the document gives it. -/
  key : String
  /-- The bus name. -/
  name : Option String
  description : Option String
  pins : List PinDescriptor
  /-- The rows of its multiplexers in the table of multiplexers. -/
  muxes : List Nat
deriving DecidableEq

/-- The power rails of a device. -/
structure BoardPower where
  rails : List String
  phases : Option (List (List UInt8))
  pmbus : Bool
  multiphase : Bool
deriving DecidableEq

/-- A device. -/
structure BoardDevice where
  /-- The driver kind. -/
  kind : String
  names : List String
  description : Option String
  place : DevicePlace
  /-- The row of its port in the port table. -/
  portSlot : Nat
  /-- The name of the bus that it sits on. -/
  bus : Option String
  refdes : Option String
  removable : Bool
  isAlias : Bool
  power : Option BoardPower
deriving DecidableEq

/-- The label of a device. -/
def BoardDevice.label (d : BoardDevice) : DeviceLabel := ⟨d.kind, d.names.head?, d.place.address⟩

/-- The devices of one driver kind, as rows of the device table, and ways to find them. -/
structure DeviceGroup where
  devices : List Nat := []
  byName : OrderedMap String Nat := {}
  byRefdes : OrderedMap String Nat := {}
  byBus : OrderedMap String (List Nat) := {}
deriving DecidableEq

/-- The sensor ids of a board. -/
structure SensorTable where
  /-- One binding per device, in device order. -/
  bindings : List SensorBinding := []
  /-- The number of ids of every kind, in canonical order. -/
  perKind : OrderedMap SensorKind Nat := .ofList (SensorKind.all.map (·, 0))
  /-- The number of ids in use, and so the next free one. -/
  total : Nat := 0
deriving DecidableEq

/-- The runs of ids of a device. -/
def SensorTable.ranges (t : SensorTable) (device : Nat) : List SensorRange :=
  match t.bindings[device]? with
  | some b => b.ranges
  | none => []

/-- A device's share in a rail. -/
structure RailClaim where
  /-- The row of the device. -/
  device : Nat
  /-- The position of the rail in the device's list of rails. -/
  index : Nat
  /-- The phases that the device drives on the rail, if it says so. -/
  phases : Option (List UInt8)
deriving DecidableEq

/-- A board whose references have all been resolved. -/
structure Topology where
  controllers : List BoardController := []
  ports : List BoardPort := []
  muxes : List MuxDescriptor := []
  devices : List BoardDevice := []
  /-- The devices of each driver kind. -/
  groups : OrderedMap String DeviceGroup := {}
  sensors : SensorTable := {}
  /-- The devices that have a share in each rail. -/
  rails : OrderedMap String (List RailClaim) := {}
deriving DecidableEq

namespace Topology

/-- The device of a kind with a name. -/
def deviceByName (t : Topology) (kind name : String) : Option Nat := (t.groups.get? kind).bind (·.byName.get? name)

/-- The device of a kind with a reference designator. -/
def deviceByRefdes (t : Topology) (kind refdes : String) : Option Nat :=
  (t.groups.get? kind).bind (·.byRefdes.get? refdes)

/-- The controllers that operate in a mode. -/
def controllersIn (t : Topology) (mode : ControllerMode) : List BoardController :=
  t.controllers.filter (·.mode == mode)

/-- The multiplexers on the ports of a controller. -/
def muxesOf (t : Topology) (controller : Controller) : List MuxDescriptor :=
  t.muxes.filter (·.controller == controller)

end Topology

end I2cTopology
