import I2cTopology.LogRecord
import I2cTopology.Topology.Devices

/-!
# Resolution of documents

Controllers come before devices, and each declaration is checked against what was declared before it, so the first
failure in this order is the one that is found.
-/

namespace I2cTopology

/-- The board that a document describes. -/
def Document.resolve (d : Document) : Except TopologyError Topology := do
  let t ← d.controllers.foldlM Topology.addController {}
  d.devices.foldlM Topology.addDevice t

/-! ## Reports -/

/-- What is reported of a controller that has been added. -/
def ControllerDecl.record (c : ControllerDecl) : LogRecord :=
  let controller : Controller := ⟨c.controller⟩
  let mode : ControllerMode := if c.target then .target else .initiator
  .debug s!"{controller.label}: {mode.name} with {c.ports.size} port(s)"

/-- What is reported of the controllers that can be added one after the other. -/
def Topology.controllerLog (t : Topology) : List ControllerDecl → Log
  | [] => []
  | c :: cs =>
    match t.addController c with
    | .ok t => c.record :: t.controllerLog cs
    | .error _ => []

/-- What is reported of a board. -/
def Topology.record (t : Topology) : LogRecord :=
  .debug <| s!"resolved {t.controllers.length} controllers, {t.ports.length} ports, {t.muxes.length} muxes, " ++
    s!"{t.devices.length} devices, {t.sensors.total} sensors"

/-- What is reported of the resolution of a document. -/
def Document.resolveLog (d : Document) : Log :=
  Topology.controllerLog {} d.controllers ++
    match d.resolve with
    | .ok t => [t.record]
    | .error _ => []

end I2cTopology
