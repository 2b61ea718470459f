import I2cTopology.Bus.Wire
import I2cTopology.LogRecord

/-!
# Device handles and dialogues

A handle names one device for one task and is never changed. Every operation on it is a `Dialogue`: requests, each
with a continuation that takes the reply. A `Transport` delivers requests, so `Dialogue.run` gives an operation its
effect.
-/

namespace I2cTopology

/-- A request to the server of a bus. -/
structure Request extends Exchange where
  /-- The task that the handle is bound to. -/
  owner : TaskId
  /-- The route that must be live before the transaction. -/
  route : Option Route
deriving DecidableEq

/-- What a transport makes of a request. -/
structure Sent (τ : Type) where
  reply : Reply AccessError
  transport : τ
  log : Log

/-- States of a way to the server, over which requests can be sent. -/
class Transport (τ : Type) where
  send : τ → Request → Buffer → Sent τ

/-! ## Dialogues -/

/-- A program that sends requests and goes on with their replies. -/
inductive Dialogue (α : Type) where
  | done (value : α)
  | send (request : Request) (buffer : Buffer) (next : Reply AccessError → Dialogue α)

/-- What a dialogue leaves behind. -/
structure Outcome (τ α : Type) where
  value : α
  transport : τ
  log : Log

namespace Dialogue

variable {α β τ : Type}

/-- Goes on with a value where a dialogue ends. -/
def map (f : α → β) : Dialogue α → Dialogue β
  | .done value => .done (f value)
  | .send request buffer next => .send request buffer fun reply => (next reply).map f

/-- Runs a dialogue over a transport. -/
def run [Transport τ] : Dialogue α → τ → Outcome τ α
  | .done value, transport => ⟨value, transport, []⟩
  | .send request buffer next, transport =>
    let sent := Transport.send transport request buffer
    let rest := (next sent.reply).run sent.transport
    { rest with log := sent.log ++ rest.log }

/-- A value changed after the run is the value changed before it. -/
theorem run_map [Transport τ] (f : α → β) (d : Dialogue α) (transport : τ) :
    (d.map f).run transport =
      ⟨f (d.run transport).value, (d.run transport).transport, (d.run transport).log⟩ := by
  induction d generalizing transport with
  | done value => rfl
  | send request buffer next ih => simp only [map, run, ih]

end Dialogue

/-! ## Handles -/

/-- One device as one task may use it. -/
structure DeviceHandle extends DevicePlace where
  owner : TaskId
deriving DecidableEq

/-- The handle on the device at a place for one task. -/
def DevicePlace.bind (place : DevicePlace) (owner : TaskId) : DeviceHandle := { place with owner }

namespace DeviceHandle

/-- A stand-in for builds of a single task. It names the general-call address, which no device answers. -/
def mock (owner : TaskId) : DeviceHandle := DevicePlace.bind ⟨⟨0⟩, ⟨0⟩, none, 0x00⟩ owner

/-- The same device for another task. -/
def forTask (h : DeviceHandle) (owner : TaskId) : DeviceHandle := h.bind owner

/-- The request for one transaction with the device. -/
def request (h : DeviceHandle) (op : Op) (write : List UInt8) : Request :=
  { controller := h.controller, port := h.port, address := h.address, op, write, owner := h.owner, route := h.route }

/-- Writes `bytes`, then fills the buffer. -/
def writeRead (h : DeviceHandle) (bytes : List UInt8) (buffer : Buffer) : Dialogue (Reply AccessError) :=
  .send (h.request .writeRead bytes) buffer .done

/-- Fills the buffer. -/
def read (h : DeviceHandle) (buffer : Buffer) : Dialogue (Reply AccessError) := h.writeRead [] buffer

/-- Writes `bytes`. -/
def write (h : DeviceHandle) (bytes : List UInt8) : Dialogue (Except AccessError Unit) :=
  (h.writeRead bytes []).map fun reply => reply.result.map fun _ => ()

/-- Fills the buffer from `register` on. -/
def readReg (h : DeviceHandle) (register : UInt8) (buffer : Buffer) : Dialogue (Reply AccessError) :=
  h.writeRead [register] buffer

/-- Reads a register of one byte. -/
def readRegU8 (h : DeviceHandle) (register : UInt8) : Dialogue (Except AccessError UInt8) :=
  (h.readReg register [0]).map fun reply => reply.result.map fun _ => reply.buffer.getD 0 0

/-- Reads a register of two bytes, the high one first. -/
def readRegU16 (h : DeviceHandle) (register : UInt8) : Dialogue (Except AccessError UInt16) :=
  (h.readReg register [0, 0]).map fun reply => reply.result.map fun _ =>
    (reply.buffer.getD 0 0).toUInt16 <<< 8 ||| (reply.buffer.getD 1 0).toUInt16

/-- Writes `bytes` to `register` in one transaction. -/
def writeReg (h : DeviceHandle) (register : UInt8) (bytes : List UInt8) : Dialogue (Except AccessError Unit) :=
  h.write (register :: bytes)

/-- Fills the buffer with the block of `register`. -/
def readBlock (h : DeviceHandle) (register : UInt8) (buffer : Buffer) : Dialogue (Reply AccessError) :=
  .send (h.request .writeReadBlock [register]) buffer .done

end DeviceHandle

end I2cTopology
