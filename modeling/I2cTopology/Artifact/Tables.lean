import I2cTopology.Artifact.Basic
import I2cTopology.Artifact.Error
import I2cTopology.Bus.Server
import I2cTopology.Bus.Validation

/-!
# The tables of an artifact

The same contents that the text of an artifact writes down, as values that a server and a validator can work with.
-/

namespace I2cTopology

/-- The tables of a board. -/
structure BoardTables where
  controllers : List ControllerDescriptor
  pins : List PinDescriptor
  muxes : List MuxDescriptor
  devices : List DevicePlace
  /-- The place and the check of each validated device. -/
  validation : List (DevicePlace × Option Check)
  sensors : List SensorBinding

namespace Artifact

/-- The place and the check of a validated device. A check is looked up by driver kind. -/
def validated (a : Artifact) (registry : CheckRegistry) (arm : ValidationArm) :
    Except EmitError (DevicePlace × Option Check) :=
  match a.devices[arm.device]? with
  | none => .error (.missingValidated arm.device)
  | some d =>
    match arm.check with
    | none => .ok (d.place, none)
    | some path =>
      match registry.get? d.kind with
      | some check => .ok (d.place, some check)
      | none => .error (.unregisteredCheck d.kind path)

/-- The tables of an artifact. -/
def tables (a : Artifact) (registry : CheckRegistry) : Except EmitError BoardTables :=
  ((a.validation.getD []).mapM (a.validated registry)).map fun validation =>
    { controllers := (a.bus.map (·.controllers)).getD []
      pins := (a.bus.map (·.pins)).getD []
      muxes := (a.bus.map (·.muxes)).getD []
      devices := a.devices.map (·.place)
      validation
      sensors := (a.sensors.map (·.bindings)).getD [] }

end Artifact

namespace BoardTables

/-- A handle on every device for one task. -/
def handles (t : BoardTables) (owner : TaskId) : List DeviceHandle := t.devices.map (·.bind owner)

/-- The validator for one task. -/
def validator (t : BoardTables) (owner : TaskId) : Validator :=
  ⟨t.validation.map fun (place, check) => ⟨place.bind owner, check⟩⟩

/-- A server over a wire. -/
def server {σ : Type} (t : BoardTables) (wire : σ) : Server σ := .new wire t.controllers t.muxes

end BoardTables

end I2cTopology
