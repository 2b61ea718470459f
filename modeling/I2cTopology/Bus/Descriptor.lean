import I2cTopology.Bus.Mux

/-!
# Descriptors of controllers, pins and multiplexers

What a bus server is told about the board.
-/

namespace I2cTopology

/-- Whether a controller drives its bus or answers on it. -/
inductive ControllerMode where
  | initiator
  | target
deriving DecidableEq

/-- The text form of a mode. -/
def ControllerMode.name : ControllerMode → String
  | .initiator => "Initiator"
  | .target => "Target"

/-- A configured controller. -/
structure ControllerDescriptor where
  controller : Controller
  mode : ControllerMode
  /-- The number of ports. -/
  ports : UInt8
deriving DecidableEq

/-- Whether `port` is one of the controller's ports. -/
def ControllerDescriptor.hasPort (c : ControllerDescriptor) (port : PortIndex) : Bool := port.number < c.ports

/-- Pins of one GPIO port that are given to one alternate function. -/
structure PinDescriptor where
  controller : Controller
  port : PortIndex
  gpioPort : String
  /-- Bit `b` is set when pin `b` of the GPIO port is used. -/
  pins : BitVec 16
  function : UInt8
deriving DecidableEq

/-- A multiplexer on a port of a controller. -/
structure MuxDescriptor where
  id : MuxId
  controller : Controller
  port : PortIndex
  part : MuxPart
  address : UInt8
  /-- The number of wired segments, which are counted from one. -/
  segments : UInt8
  /-- The reset pin, active low, if one is wired. -/
  nreset : Option PinDescriptor
deriving DecidableEq

namespace MuxDescriptor

/-- Whether `segment` is wired. -/
def hasSegment (m : MuxDescriptor) (segment : SegmentId) : Bool := 1 ≤ segment.number && segment.number ≤ m.segments

/-- Whether the multiplexer sits on the given bus. -/
def isOn (m : MuxDescriptor) (controller : Controller) (port : PortIndex) : Bool :=
  m.controller == controller && m.port == port

end MuxDescriptor

end I2cTopology
