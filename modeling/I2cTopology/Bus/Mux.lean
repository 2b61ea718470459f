import I2cTopology.Bus.Address

/-!
# Multiplexer parts and their control writes

A part connects at most one of its segments. `MuxPart.select?` and `MuxPart.deselect` are the bytes that bring this
about, and `MuxPart.decode` reads such bytes back: the outer `none` stands for bytes that are no control write, the
inner one for a write that leaves every segment disconnected.
-/

namespace I2cTopology

/-- The supported part families. -/
inductive MuxPart where
  | pca9545
  | pca9546
  | pca9548
  | ltc4306
deriving DecidableEq

namespace MuxPart

/-- Every part, in the order in which documents list them. -/
def all : List MuxPart := [.pca9545, .pca9546, .pca9548, .ltc4306]

/-- The name of a part in a document. -/
def name : MuxPart → String
  | .pca9545 => "pca9545"
  | .pca9546 => "pca9546"
  | .pca9548 => "pca9548"
  | .ltc4306 => "ltc4306"

/-- The name of a part in generated source. -/
def variantName : MuxPart → String
  | .pca9545 => "Pca9545"
  | .pca9546 => "Pca9546"
  | .pca9548 => "Pca9548"
  | .ltc4306 => "Ltc4306"

/-- The largest segment number that the part provides. -/
def maxSegments : MuxPart → UInt8
  | .pca9545 | .pca9546 | .ltc4306 => 4
  | .pca9548 => 8

/-- The register that holds the downstream switches of the part with registers. -/
def switchRegister : UInt8 := 0x03

/-- The write that connects `segment` and disconnects every other one, if the part has that segment. -/
def select? (part : MuxPart) (segment : SegmentId) : Option (List UInt8) :=
  match segment.channel? with
  | none => none
  | some channel =>
    if channel < part.maxSegments then
      match part with
      | .pca9545 | .pca9546 | .pca9548 => some [1 <<< channel]
      | .ltc4306 => some [switchRegister, 0x80 >>> channel]
    else none

/-- The write that disconnects every segment. -/
def deselect : MuxPart → List UInt8
  | .pca9545 | .pca9546 | .pca9548 => [0]
  | .ltc4306 => [switchRegister, 0]

/-- What a set of switched-on channels connects, the channels counted from zero: nothing, one segment, or more than a
part may connect at a time. -/
def connection : List Nat → Option (Option SegmentId)
  | [] => some none
  | [channel] => some (some ⟨UInt8.ofNat (channel + 1)⟩)
  | _ => none

/-- The channels that a byte switches on when its lowest bit stands for the first. -/
def lowBitFirst (byte : UInt8) : List Nat := (List.range 8).filter fun i => byte.toNat.testBit i

/-- The channels that a byte switches on when its highest bit stands for the first. -/
def highBitFirst (byte : UInt8) : List Nat := (List.range 8).filter fun i => byte.toNat.testBit (7 - i)

/-- What a write to the part connects. -/
def decode (part : MuxPart) (bytes : List UInt8) : Option (Option SegmentId) :=
  match part, bytes with
  | .pca9545, [byte] | .pca9546, [byte] | .pca9548, [byte] => connection (lowBitFirst byte)
  | .ltc4306, [register, byte] => if register = switchRegister then connection (highBitFirst byte) else none
  | _, _ => none

end MuxPart

end I2cTopology
