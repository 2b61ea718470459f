import I2cTopology.Bus.Handle
import I2cTopology.OrderedMap

/-!
# Identity checks

A check asks a device who it is. Each of the known ones reads an identification register and compares it with the
value that the part's datasheet fixes; a wrong value is an answer, a failed read is an error.
-/

namespace I2cTopology

/-- A check of one device: whether the part identifies correctly. -/
abbrev Check := DeviceHandle → Dialogue (Except AccessError Bool)

namespace Check

/-- Reads a register of one byte and tests its value. -/
def register (number : UInt8) (expected : UInt8 → Bool) : Check := fun device =>
  (device.readRegU8 number).map fun value => value.map expected

/-- The lower twelve bits of the TMP117's device id register are its device id. -/
def tmp117 : Check := fun device =>
  (device.readRegU16 0x0F).map fun id => id.map fun id => id &&& 0x0FFF == 0x0117

/-- The manufacturer id of the TMP451. -/
def tmp451 : Check := register 0xFE (· == 0x55)

/-- The manufacturer id of the EMC2101. -/
def emc2101 : Check := register 0xFE (· == 0x5D)

/-- An FRU memory starts with a common header of format version 1. -/
def fruHeader : Check := register 0x00 (· &&& 0x0F == 0x01)

/-- The driver kinds with a check of their own: kind, check, and the path of the check in generated source. -/
def builtin : List (String × Check × String) :=
  [("tmp117", tmp117, "checks::tmp117"), ("tmp451", tmp451, "checks::tmp451"),
    ("emc2101", emc2101, "checks::emc2101")]

/-- The check of a driver kind. -/
def builtin? (kind : String) : Option Check := (builtin.find? (·.1 == kind)).map (·.2.1)

/-- The path of a driver kind's check, relative to the runtime library. -/
def builtinPath? (kind : String) : Option String := (builtin.find? (·.1 == kind)).map (·.2.2)

end Check

/-- Checks by driver kind. -/
abbrev CheckRegistry := OrderedMap String Check

/-- The registry of the checks that are shipped. -/
def CheckRegistry.builtin : CheckRegistry := .ofList (Check.builtin.map fun (kind, check, _) => (kind, check))

end I2cTopology
