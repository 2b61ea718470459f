import I2cTopology.Bus.Check

/-!
# Validation of devices

A device with a check is validated by that check, any other by reading one byte from it. A device with a check never
falls back to the plain read.
-/

namespace I2cTopology

/-- The result of a validation that could be carried out. -/
inductive ValidationOutcome where
  /-- The check passed. -/
  | good
  /-- The part did not identify correctly. -/
  | bad
  /-- There is no check and a plain read succeeded. -/
  | rawReadOk
deriving DecidableEq

/-- The text form of a result. -/
def ValidationOutcome.name : ValidationOutcome → String
  | .good => "Good"
  | .bad => "Bad"
  | .rawReadOk => "RawReadOk"

/-- Why a validation could not be carried out. -/
inductive ValidationError where
  /-- The index is past the table. -/
  | noDevice (index : Nat)
  | bus (error : AccessError)
deriving DecidableEq

/-- The text of a failed validation. -/
def ValidationError.message : ValidationError → String
  | .noDevice index => s!"no device at index {index}"
  | .bus error => error.message

namespace DeviceHandle

/-- Reads one byte without choosing a register. -/
def rawProbe (h : DeviceHandle) : Dialogue (Except AccessError Unit) :=
  (h.read [0]).map fun reply => reply.result.map fun _ => ()

/-- Validates the device by its check, or by a plain read where there is none. -/
def validate (h : DeviceHandle) (check : Option Check) : Dialogue (Except AccessError ValidationOutcome) :=
  match check with
  | some check => (check h).map fun result => result.map fun passed => if passed then .good else .bad
  | none => h.rawProbe.map fun result => result.map fun _ => .rawReadOk

end DeviceHandle

/-- A row of a validation table. -/
structure ValidationEntry where
  device : DeviceHandle
  check : Option Check

/-- The validation table of a board. -/
structure Validator where
  entries : List ValidationEntry

/-- Validates the device of row `index` over a transport, which refuses callers that do not own the device. -/
def Validator.validate {τ : Type} [Transport τ] (v : Validator) (transport : τ) (index : Nat) :
    Outcome τ (Except ValidationError ValidationOutcome) :=
  match v.entries[index]? with
  | none => ⟨.error (.noDevice index), transport, []⟩
  | some entry =>
    let outcome := (entry.device.validate entry.check).run transport
    match outcome.value with
    | .error e => ⟨.error (.bus e), outcome.transport, outcome.log⟩
    | .ok result =>
      ⟨.ok result, outcome.transport, outcome.log ++ [.debug s!"device {index} validated: {result.name}"]⟩

end I2cTopology
