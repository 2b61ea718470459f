import I2cTopology.Bus.Address

/-!
# Faults on the wire and failures of an access
-/

namespace I2cTopology

/-- What can go wrong on the wire. -/
inductive BusFault where
  | noAck
  | arbitrationLost
  | timeout
  | busLocked
deriving DecidableEq

/-- The text of a fault. -/
def BusFault.message : BusFault → String
  | .noAck => "no acknowledge from target"
  | .arbitrationLost => "bus arbitration lost"
  | .timeout => "transaction timed out"
  | .busLocked => "bus locked up and was reset"

/-- Why an access to a device failed. -/
inductive AccessError where
  /-- The device's own transaction failed. -/
  | busCommunication (fault : BusFault)
  /-- A control write on the way to the device failed. -/
  | routingFailure (route : Route) (fault : BusFault)
  /-- The caller is not the task that the handle is bound to. -/
  | capabilityDenied (owner caller : TaskId)
  | badController (controller : Controller)
  | badPort (controller : Controller) (port : PortIndex)
  | notInitiator (controller : Controller)
  | muxNotFound (mux : MuxId)
  | segmentNotFound (mux : MuxId) (segment : SegmentId)
deriving DecidableEq

namespace AccessError

/-- The text of a failure. -/
def message : AccessError → String
  | .busCommunication fault => s!"bus communication error: {fault.message}"
  | .routingFailure route fault => s!"routing to {route.label} failed: {fault.message}"
  | .capabilityDenied owner caller =>
    s!"task {caller.number} may not use a device owned by task {owner.number}"
  | .badController controller => s!"controller {controller.label} is not configured"
  | .badPort controller port => s!"port {port.number} does not exist on {controller.label}"
  | .notInitiator controller => s!"controller {controller.label} is configured as a target"
  | .muxNotFound mux => s!"mux {mux.number} is not attached to the requested bus"
  | .segmentNotFound mux segment => s!"segment {segment.number} does not exist on mux {mux.number}"

/-- The fault on the wire behind a failure, if there was one. -/
def fault? : AccessError → Option BusFault
  | .busCommunication fault | .routingFailure _ fault => some fault
  | _ => none

end AccessError

/-- Why an operation of a device driver failed: the access itself, or an answer that the device's protocol rejects. -/
inductive DriverError where
  | bus (error : AccessError)
  | protocol (reason : String)
deriving DecidableEq

/-- The text of a driver's failure; that of an access is passed on. -/
def DriverError.message : DriverError → String
  | .bus error => error.message
  | .protocol reason => s!"device protocol error: {reason}"

end I2cTopology
