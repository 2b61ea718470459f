/-!
# Sensor kinds and the ids of a device's sensors

Sensor ids are dense numbers over the whole topology. A device owns one run of ids per kind of sensor.
-/

namespace I2cTopology

/-- What a sensor measures. -/
inductive SensorKind where
  | temperature
  | power
  | current
  | voltage
  | inputCurrent
  | inputVoltage
  | speed
deriving DecidableEq

namespace SensorKind

/-- Every kind, in the canonical order in which ids are assigned. -/
def all : List SensorKind := [.temperature, .power, .current, .voltage, .inputCurrent, .inputVoltage, .speed]

/-- The name of a kind in documents. -/
def name : SensorKind → String
  | .temperature => "temperature"
  | .power => "power"
  | .current => "current"
  | .voltage => "voltage"
  | .inputCurrent => "input_current"
  | .inputVoltage => "input_voltage"
  | .speed => "speed"

/-- Every kind is listed. -/
theorem mem_all (k : SensorKind) : k ∈ all := by cases k <;> decide

/-- No kind is listed twice. -/
theorem nodup_all : all.Nodup := by decide

end SensorKind

/-- A run of sensor ids of one kind. -/
structure SensorRange where
  kind : SensorKind
  /-- The first id of the run. -/
  first : Nat
  /-- The number of ids in the run. -/
  count : Nat
deriving DecidableEq

/-- The ids of a run. -/
def SensorRange.ids (r : SensorRange) : List Nat := List.range' r.first r.count

/-- The sensor ids of one device. -/
structure SensorBinding where
  /-- The device's index. -/
  device : Nat
  /-- The runs of the device, in canonical kind order. -/
  ranges : List SensorRange
deriving DecidableEq

namespace SensorBinding

/-- The ids of one kind on the device. -/
def ids (b : SensorBinding) (kind : SensorKind) : List Nat := (b.ranges.filter (·.kind == kind)).flatMap (·.ids)

/-- The number of sensors on the device. -/
def count (b : SensorBinding) : Nat := b.ranges.foldr (fun r n => r.count + n) 0

end SensorBinding

end I2cTopology
