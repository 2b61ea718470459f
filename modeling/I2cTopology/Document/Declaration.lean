import I2cTopology.Bus.Mux
import I2cTopology.Bus.Sensor
import I2cTopology.OrderedMap

/-!
# Topology documents

What a document declares, before anything is checked against anything else.
-/

namespace I2cTopology

/-- Pins of one GPIO port that are given to one alternate function. -/
structure PinSetDecl where
  /-- The GPIO port; the key of the bus port when absent. -/
  gpioPort : Option String := none
  pins : List UInt8 := []
  function : UInt8 := 0
deriving DecidableEq

/-- A multiplexer on a port. -/
structure MuxDecl where
  part : MuxPart := .pca9545
  address : UInt8 := 0
  /-- The number of wired segments; all that the part provides when absent. -/
  segments : Option UInt8 := none
  /-- The reset pin, active low. -/
  nreset : Option PinSetDecl := none
deriving DecidableEq

/-- A pin mapping of a controller. -/
structure PortDecl where
  /-- The bus name that devices may refer to. -/
  name : Option String := none
  description : Option String := none
  pins : List PinSetDecl := []
  muxes : List MuxDecl := []
deriving DecidableEq

/-- A controller. -/
structure ControllerDecl where
  controller : UInt8 := 0
  /-- Whether the controller answers on its bus instead of driving it. -/
  target : Bool := false
  /-- The ports by their keys; their order gives the port indices. -/
  ports : OrderedMap String PortDecl := {}
deriving DecidableEq

/-- The number of sensors of each kind on a device. -/
structure SensorDecl where
  temperature : UInt32 := 0
  power : UInt32 := 0
  current : UInt32 := 0
  voltage : UInt32 := 0
  inputCurrent : UInt32 := 0
  inputVoltage : UInt32 := 0
  speed : UInt32 := 0
deriving DecidableEq

/-- The number of sensors of one kind. -/
def SensorDecl.count (s : SensorDecl) : SensorKind → UInt32
  | .temperature => s.temperature
  | .power => s.power
  | .current => s.current
  | .voltage => s.voltage
  | .inputCurrent => s.inputCurrent
  | .inputVoltage => s.inputVoltage
  | .speed => s.speed

/-- The power rails that a device regulates or monitors. -/
structure PowerDecl where
  /-- The rail names; an empty one holds a place and names no rail. -/
  rails : List String := []
  /-- Phase numbers, one list per rail. -/
  phases : Option (List (List UInt8)) := none
  pmbus : Bool := false
  /-- Whether the device is one of several phase controllers of its rails. -/
  multiphase : Bool := false
deriving DecidableEq

/-- A device. -/
structure DeviceDecl where
  /-- The driver kind. -/
  device : String := ""
  names : List String := []
  description : Option String := none
  /-- The name of the bus, instead of a controller. -/
  bus : Option String := none
  /-- The controller number, instead of a bus. -/
  controller : Option UInt8 := none
  /-- The key of a port of the controller. -/
  port : Option String := none
  address : UInt8 := 0
  /-- The number of a multiplexer on the port, counted from one. -/
  mux : Option UInt8 := none
  /-- The number of a segment of that multiplexer, counted from one. -/
  segment : Option UInt8 := none
  /-- The reference designator. -/
  refdes : Option String := none
  removable : Bool := false
  /-- Whether the device shares its place with an earlier one on purpose. -/
  isAlias : Bool := false
  sensors : SensorDecl := {}
  power : Option PowerDecl := none
deriving DecidableEq

/-- A topology document. -/
structure Document where
  controllers : List ControllerDecl := []
  devices : List DeviceDecl := []
deriving DecidableEq

end I2cTopology
