import I2cTopology.Bus.Descriptor
import I2cTopology.Bus.Handle
import I2cTopology.Bus.Sensor
import I2cTopology.OrderedMap

/-!
# Artifacts

What an artifact contains, with every generated identifier in its place. Its text (`Artifact.render`) and its tables
(`Artifact.tables`) are two readings of the same value.
-/

namespace I2cTopology

/-! ## What is asked for -/

/-- A part of an artifact that can be asked for. -/
inductive Disposition where
  /-- Descriptors of the controllers that drive a bus. -/
  | initiator
  /-- Descriptors of the one controller that answers on a bus. -/
  | target
  /-- Functions that give handles. -/
  | devices
  /-- Tables of sensor ids. -/
  | sensors
  /-- The validation of every device. -/
  | validation
deriving DecidableEq

namespace Disposition

/-- Every part, in the order in which they appear. -/
def all : List Disposition := [.initiator, .target, .devices, .sensors, .validation]

/-- The name of a part on the command line. -/
def name : Disposition → String
  | .initiator => "initiator"
  | .target => "target"
  | .devices => "devices"
  | .sensors => "sensors"
  | .validation => "validation"

/-- The part with a name. -/
def ofName? (name : String) : Option Disposition := all.find? (·.name == name)

/-- What is told of a name that no part has. -/
def unknownMessage (name : String) : String := s!"unknown disposition `{name}`"

end Disposition

/-- How an artifact is to be made. -/
structure EmitOptions where
  /-- Whether the artifact is for a lone task, with one stand-in device and port instead of the board's. -/
  standalone : Bool := false
  /-- The name of the generated module. -/
  moduleName : String := "i2c_config"
  /-- The path of the runtime library in the generated source. -/
  corePath : String := "i2c_core"
  /-- Paths of check functions by driver kind; they go before the checks that are shipped. -/
  checks : OrderedMap String String := {}

/-! ## What is in it -/

/-- A row of the device table. -/
structure DeviceRow where
  kind : String
  /-- What a comment in the text says of the device. -/
  comment : String
  place : DevicePlace
deriving DecidableEq

/-- A generated function that gives an `α`. -/
structure Accessor (α : Type) where
  function : String
  value : α
deriving DecidableEq

/-- The accessors of one driver kind. -/
structure KindModule (α : Type) where
  name : String
  accessors : List (Accessor α)
deriving DecidableEq

/-- Controller setup. -/
structure BusSection where
  mode : ControllerMode
  controllers : List ControllerDescriptor := []
  pins : List PinDescriptor := []
  ports : List (Accessor PortIndex) := []
  /-- The multiplexers; target setup has none. -/
  muxes : List MuxDescriptor := []
deriving DecidableEq

/-- The devices that have a share in a rail. -/
structure RailAccessor where
  function : String
  /-- The name of the rail in the document. -/
  rail : String
  /-- The row of each device and the position of the rail in the device's list. -/
  entries : List (Nat × Nat)
deriving DecidableEq

/-- Functions that give handles. An identifier is unique within its kind and family. -/
structure AccessorSection where
  byKind : List (Accessor (List Nat)) := []
  byName : List (KindModule Nat) := []
  byRefdes : List (KindModule Nat) := []
  byBus : List (KindModule (List Nat)) := []
  rails : List RailAccessor := []
deriving DecidableEq

/-- The number of sensors of a kind, with the constant that holds it. -/
structure SensorCount where
  kind : SensorKind
  constant : String
  count : Nat
deriving DecidableEq

/-- A kind of sensors that the devices of a driver kind have, with its names in the text. -/
structure SensorColumn where
  kind : SensorKind
  field : String
  constant : String
deriving DecidableEq

/-- A device with sensors. -/
structure SensorInstance where
  device : Nat
  /-- The constants that stand for the device. -/
  constants : List String
  /-- The ids of each column. -/
  ids : List (List Nat)
deriving DecidableEq

/-- The sensor ids of a driver kind. -/
structure SensorModule where
  name : String
  columns : List SensorColumn
  instances : List SensorInstance
deriving DecidableEq

/-- Sensor ids. -/
structure SensorSection where
  total : Nat
  perKind : List SensorCount
  groups : List SensorModule := []
  /-- The runs of ids of each device. -/
  bindings : List SensorBinding := []
deriving DecidableEq

/-- How a device is validated: by the check with this path, or by a plain read. -/
structure ValidationArm where
  device : Nat
  check : Option String
deriving DecidableEq

/-- An artifact. -/
structure Artifact where
  moduleName : String
  corePath : String
  standalone : Bool
  /-- The device table, which a lone task has no use for. -/
  devices : List DeviceRow
  bus : Option BusSection
  accessors : Option AccessorSection
  sensors : Option SensorSection
  validation : Option (List ValidationArm)
deriving DecidableEq

end I2cTopology
