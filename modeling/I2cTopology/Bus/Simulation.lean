import I2cTopology.Bus.Descriptor
import I2cTopology.Bus.Wire

/-!
# A simulated board

A wire for hosted runs. Multiplexers hold the segment last written to them, a device answers only while its segment
is connected, faults can be injected, and every transaction is recorded.

- `load_add`: a run of registers is read in two parts as it is at once.
-/

namespace I2cTopology

/-! ## Register files -/

/-- The registers of a device. Those never written read as zero. -/
abbrev Registers := UInt8 → UInt8

namespace Registers

/-- The registers of a device that has not been written to. -/
def zero : Registers := fun _ => 0

/-- Sets one register. -/
def set (regs : Registers) (register value : UInt8) : Registers := fun r => if r = register then value else regs r

/-- Writes bytes to consecutive registers; the register after the last one is the first. So it is however many bytes
there are: offsets wrap round too, as in a build that does not check them for overflow, where one that does would stop
at a write of 255 bytes or more. -/
def store (regs : Registers) (register : UInt8) : List UInt8 → Registers
  | [] => regs
  | b :: bs => store (regs.set register b) (register + 1) bs

/-- Reads `n` consecutive registers; the register after the last one is the first. -/
def load (regs : Registers) (register : UInt8) : Nat → List UInt8
  | 0 => []
  | n + 1 => regs register :: load regs (register + 1) n

/-- As many bytes are read as were asked for. -/
theorem length_load (regs : Registers) (register : UInt8) (n : Nat) : (regs.load register n).length = n := by
  induction n generalizing register with
  | zero => rfl
  | succ n ih => simp [load, ih]

/-- Reading two runs one behind the other. -/
theorem load_add (regs : Registers) (register : UInt8) (m n : Nat) :
    regs.load register (m + n) = regs.load register m ++ regs.load (register + UInt8.ofNat m) n := by
  induction m generalizing register with
  | zero => simp [load]
  | succ m ih =>
    rw [Nat.add_right_comm]
    simp only [load, ih, List.cons_append]
    rw [UInt8.ofNat_add, UInt8.add_assoc, UInt8.add_comm (UInt8.ofNat m)]
    rfl

end Registers

/-! ## Devices -/

/-- A device with registers somewhere on the board. -/
structure SimDevice extends DevicePlace where
  /-- The register that the next byte is read from. -/
  pointer : UInt8
  registers : Registers
  /-- The block that is returned for each register. -/
  blocks : UInt8 → List UInt8

namespace SimDevice

/-- A device at a place on the board. -/
def new (place : DevicePlace) : SimDevice :=
  { place with pointer := 0, registers := .zero, blocks := fun _ => [] }

/-- Presets consecutive registers. -/
def withRegister (d : SimDevice) (register : UInt8) (bytes : List UInt8) : SimDevice :=
  { d with registers := d.registers.store register bytes }

/-- Presets the block of a register. -/
def withBlock (d : SimDevice) (register : UInt8) (bytes : List UInt8) : SimDevice :=
  { d with blocks := fun r => if r = register then bytes else d.blocks r }

/-- Whether the device sits at `address` on the given bus. -/
def isAt (d : SimDevice) (controller : Controller) (port : PortIndex) (address : UInt8) : Bool :=
  d.controller == controller && d.port == port && d.address == address

/-- A write: the first byte chooses a register, the following ones are stored from there on. -/
def write (d : SimDevice) : List UInt8 → SimDevice
  | [] => d
  | register :: data => { d with pointer := register, registers := d.registers.store register data }

/-- A read of `n` bytes, which moves the pointer along. -/
def read (d : SimDevice) (n : Nat) : List UInt8 × SimDevice :=
  (d.registers.load d.pointer n, { d with pointer := d.pointer + UInt8.ofNat n })

/-- A block read: the block of the chosen register, as far as it fits. -/
def readBlock (d : SimDevice) (buffer : Buffer) : Nat × Buffer :=
  let bytes := (d.blocks d.pointer).take buffer.length
  (bytes.length, bytes ++ buffer.drop bytes.length)

end SimDevice

/-! ## The board -/

/-- A multiplexer with the segment that it connects. -/
structure SimMux where
  descriptor : MuxDescriptor
  selected : Option SegmentId
deriving DecidableEq

/-- Whether the multiplexer sits at `address` on the given bus. -/
def SimMux.isAt (m : SimMux) (controller : Controller) (port : PortIndex) (address : UInt8) : Bool :=
  m.descriptor.isOn controller port && m.descriptor.address == address

/-- A recorded transaction. -/
structure Transaction extends Exchange where
  /-- The number of bytes asked for. -/
  readLength : Nat
deriving DecidableEq

/-- A simulated board. -/
structure SimBoard where
  muxes : List SimMux
  devices : List SimDevice
  /-- Faults that wait for a transaction with their address, oldest first. -/
  faults : List (UInt8 × BusFault)
  /-- Every transaction so far, oldest first. -/
  history : List Transaction

namespace SimBoard

/-- A board with multiplexers that connect nothing. -/
def new (muxes : List MuxDescriptor) : SimBoard := ⟨muxes.map fun m => ⟨m, none⟩, [], [], []⟩

/-- Adds a device; its index is the number of devices before it. -/
def addDevice (b : SimBoard) (d : SimDevice) : SimBoard := { b with devices := b.devices ++ [d] }

/-- Lets the next transaction with `address` that is not spoken for fail. -/
def failNext (b : SimBoard) (address : UInt8) (fault : BusFault) : SimBoard :=
  { b with faults := b.faults ++ [(address, fault)] }

/-- The segment that a multiplexer connects. -/
def selected (b : SimBoard) (mux : MuxId) : Option SegmentId :=
  (b.muxes.find? (·.descriptor.id == mux)).bind (·.selected)

/-- The number of transactions with `address`. -/
def hits (b : SimBoard) (address : UInt8) : Nat := (b.history.filter (·.address == address)).length

/-- Whether every segment on the way to a device is connected. -/
def isVisible (b : SimBoard) (d : SimDevice) : Bool :=
  match d.route with
  | none => true
  | some route => b.muxes.any fun m => m.descriptor.id == route.mux && m.selected == some route.segment

/-- The devices that answer a transaction, with their indices. -/
def answering (b : SimBoard) (x : Exchange) : List (SimDevice × Nat) :=
  b.devices.zipIdx.filter fun (d, _) => d.isAt x.controller x.port x.address && b.isVisible d

/-- Sets what the first multiplexer at an address connects. -/
def connect (x : Exchange) (segment : Option SegmentId) : List SimMux → List SimMux
  | [] => []
  | m :: ms =>
    if m.isAt x.controller x.port x.address then { m with selected := segment } :: ms
    else m :: connect x segment ms

/-- A transaction with a multiplexer. An empty write changes nothing, and reading gives zeros. -/
def transactMux (b : SimBoard) (m : SimMux) (x : Exchange) (buffer : Buffer) : Reply BusFault × SimBoard :=
  let answer : Reply BusFault := ⟨.ok buffer.length, buffer.map fun _ => 0⟩
  if x.write.isEmpty then (answer, b)
  else
    match m.descriptor.part.decode x.write with
    | none => (⟨.error .noAck, buffer⟩, b)
    | some segment => (answer, { b with muxes := connect x segment b.muxes })

/-- A transaction with the devices on a bus, of which exactly one may answer. -/
def transactDevice (b : SimBoard) (x : Exchange) (buffer : Buffer) : Reply BusFault × SimBoard :=
  match b.answering x with
  | [] => (⟨.error .noAck, buffer⟩, b)
  | [(d, i)] =>
    let d := d.write x.write
    match x.op with
    | .writeReadBlock =>
      let (count, buffer) := d.readBlock buffer
      (⟨.ok count, buffer⟩, { b with devices := b.devices.set i d })
    | .writeRead =>
      let (bytes, d) := d.read buffer.length
      (⟨.ok bytes.length, bytes⟩, { b with devices := b.devices.set i d })
  | _ => (⟨.error .arbitrationLost, buffer⟩, b)

/-- One transaction. An injected fault comes first, then a multiplexer at the address, then the devices. -/
def transact (b : SimBoard) (x : Exchange) (buffer : Buffer) : Reply BusFault × SimBoard :=
  let b : SimBoard := { b with history := b.history ++ [⟨x, buffer.length⟩] }
  match b.faults.find? (·.1 == x.address) with
  | some (_, fault) => (⟨.error fault, buffer⟩, { b with faults := b.faults.eraseP (·.1 == x.address) })
  | none =>
    match b.muxes.find? (·.isAt x.controller x.port x.address) with
    | some m => b.transactMux m x buffer
    | none => b.transactDevice x buffer

instance : Wire SimBoard := ⟨transact⟩

end SimBoard

end I2cTopology
