/-!
# Addresses on a board

The numbers by which parts of a board are named: controllers and their ports, multiplexers and their segments,
tasks, and the 7-bit addresses that a device may have.

- `isAssignable_iff`: the assignable addresses are `0x08` to `0x77`.
-/

namespace I2cTopology

/-- A task, as the owner or the caller of a device. -/
structure TaskId where
  number : UInt16
deriving DecidableEq

/-- A physical peripheral, numbered as in the part's reference manual. -/
structure Controller where
  number : UInt8
deriving DecidableEq

/-- A pin mapping of a controller, counted from zero in declaration order. -/
structure PortIndex where
  number : UInt8
deriving DecidableEq

/-- A multiplexer, counted from zero over the whole topology. -/
structure MuxId where
  number : UInt8
deriving DecidableEq

/-- A segment of a multiplexer, counted from one as labelled on the part. -/
structure SegmentId where
  number : UInt8
deriving DecidableEq

/-- The multiplexer and segment that must be connected before a device is reachable. -/
structure Route where
  mux : MuxId
  segment : SegmentId
deriving DecidableEq

/-- Where a device is found: the bus, the way to it and the address on it. -/
structure DevicePlace where
  controller : Controller
  port : PortIndex
  /-- The route that must be live, if the device sits behind a multiplexer. -/
  route : Option Route
  address : UInt8
deriving DecidableEq

/-- The text form of a controller, such as `I2C4`. -/
def Controller.label (c : Controller) : String := s!"I2C{c.number}"

/-- The text form of a route, such as `mux 1 segment 3`. -/
def Route.label (r : Route) : String := s!"mux {r.mux.number} segment {r.segment.number}"

/-- The channel of a segment counted from zero; there is none for the segment number 0. -/
def SegmentId.channel? (s : SegmentId) : Option UInt8 :=
  if s.number = 0 then none else some (s.number - 1)

/-- The highest address that 7-bit addressing can express. -/
def maxAddress : UInt8 := 0x7F

/-- The addresses set aside by the bus specification: general call, mode codes and 10-bit addressing. -/
def isReserved (address : UInt8) : Bool :=
  address ≤ 0x07 || (0x78 ≤ address && address ≤ 0x7F)

/-- The addresses that a device or a multiplexer may have. -/
def isAssignable (address : UInt8) : Bool :=
  address ≤ maxAddress && !isReserved address

/-- The assignable addresses are those from `0x08` to `0x77`. -/
theorem isAssignable_iff {address : UInt8} : isAssignable address = true ↔ 0x08 ≤ address ∧ address ≤ 0x77 := by
  simp only [isAssignable, isReserved, maxAddress, Bool.and_eq_true, Bool.not_eq_true', Bool.or_eq_false_iff,
    Bool.and_eq_false_iff, decide_eq_true_eq, decide_eq_false_iff_not, UInt8.le_iff_toNat_le, UInt8.toNat_ofNat]
  omega

end I2cTopology
