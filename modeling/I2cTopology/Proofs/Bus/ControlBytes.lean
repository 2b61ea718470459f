import I2cTopology.Proofs.Bus.Board

/-!
# The bytes of control writes

A control write puts one byte into the switches of a part, and the byte is read as the set of channels that it switches
on. No two bytes switch on the same set (`MuxPart.channels_inj`). So the writes that select and deselect are read back
as what they are, and nothing else is read as one of them but for the channels that a part with four segments lacks:
whatever the part, all eight bits of the byte are read (`MuxPart.decode_eq_segment_iff`, `MuxPart.readsBack`,
`MuxPart.FifthChannel.decode_eq`).
-/

namespace I2cTopology

namespace MuxPart

/-! ## Sets of channels -/

theorem mem_lowBitFirst {byte : UInt8} {i : Nat} :
    i ∈ lowBitFirst byte ↔ i < 8 ∧ byte.toNat.testBit i = true := by
  simp [lowBitFirst]

theorem mem_highBitFirst {byte : UInt8} {i : Nat} :
    i ∈ highBitFirst byte ↔ i < 8 ∧ byte.toNat.testBit (7 - i) = true := by
  simp [highBitFirst]

/-- A byte is known by its eight bits. -/
theorem byte_eq_of_testBit {a b : UInt8}
    (h : ∀ i < 8, a.toNat.testBit i = true ↔ b.toNat.testBit i = true) : a = b := by
  refine UInt8.toNat.inj (Nat.eq_of_testBit_eq fun i => ?_)
  by_cases hi : i < 8
  · exact Bool.eq_iff_iff.mpr (h i hi)
  · have hclear : ∀ c : UInt8, c.toNat.testBit i = false := fun c =>
      Nat.testBit_lt_two_pow (Nat.lt_of_lt_of_le c.toNat_lt (Nat.pow_le_pow_right (by decide) (Nat.not_lt.mp hi)))
    rw [hclear, hclear]

theorem lowBitFirst_inj {a b : UInt8} (h : lowBitFirst a = lowBitFirst b) : a = b := by
  refine byte_eq_of_testBit fun i hi => ?_
  have hmem : i ∈ lowBitFirst a ↔ i ∈ lowBitFirst b := by rw [h]
  rwa [mem_lowBitFirst, mem_lowBitFirst, and_iff_right hi, and_iff_right hi] at hmem

theorem highBitFirst_inj {a b : UInt8} (h : highBitFirst a = highBitFirst b) : a = b := by
  refine byte_eq_of_testBit fun i hi => ?_
  -- bit `i` stands for the channel that is counted from the other end
  have hmem : 7 - i ∈ highBitFirst a ↔ 7 - i ∈ highBitFirst b := by rw [h]
  have hflip : 7 - (7 - i) = i := by omega
  have hlt : 7 - i < 8 := by omega
  rwa [mem_highBitFirst, mem_highBitFirst, hflip, and_iff_right hlt, and_iff_right hlt] at hmem

theorem connection_eq_segment_iff {channels : List Nat} {segment : SegmentId} :
    connection channels = some (some segment) ↔ ∃ c, channels = [c] ∧ segment = ⟨UInt8.ofNat (c + 1)⟩ := by
  rcases channels with _ | ⟨c, _ | ⟨c', cs⟩⟩ <;> simp [connection, eq_comm]

theorem connection_eq_clear_iff {channels : List Nat} : connection channels = some none ↔ channels = [] := by
  rcases channels with _ | ⟨c, _ | ⟨c', cs⟩⟩ <;> simp [connection]

/-! ## Writes to the switches -/

/-- The write that puts a byte into the switches of a part. -/
def control : MuxPart → UInt8 → List UInt8
  | .pca9545, byte | .pca9546, byte | .pca9548, byte => [byte]
  | .ltc4306, byte => [switchRegister, byte]

/-- The channels that a byte in the switches of a part switches on. -/
def channels : MuxPart → UInt8 → List Nat
  | .pca9545, byte | .pca9546, byte | .pca9548, byte => lowBitFirst byte
  | .ltc4306, byte => highBitFirst byte

/-- The byte that switches on one channel, counted from zero, whether the part has it or not. -/
def oneHot : MuxPart → UInt8 → UInt8
  | .pca9545, channel | .pca9546, channel | .pca9548, channel => 1 <<< channel
  | .ltc4306, channel => 0x80 >>> channel

variable {part : MuxPart} {bytes : List UInt8} {segment : SegmentId}

theorem channels_inj {a b : UInt8} (h : part.channels a = part.channels b) : a = b := by
  cases part with
  | ltc4306 => exact highBitFirst_inj h
  | _ => exact lowBitFirst_inj h

theorem channels_oneHot (part : MuxPart) {c : Nat} (hc : c < 8) :
    part.channels (part.oneHot (UInt8.ofNat c)) = [c] := by
  cases part with
  | ltc4306 => exact highBitFirst_oneHot c hc
  | _ => exact lowBitFirst_oneHot c hc

theorem channels_zero (part : MuxPart) : part.channels 0 = [] := by
  cases part <;> decide

theorem lt_of_mem_channels {byte : UInt8} {c : Nat} (h : c ∈ part.channels byte) : c < 8 := by
  cases part with
  | ltc4306 => exact (mem_highBitFirst.mp h).1
  | _ => exact (mem_lowBitFirst.mp h).1

/-- Only writes to the switches are read as control writes, and they are read by the channels that they switch on. -/
theorem decode_eq_some_iff {meaning : Option SegmentId} : part.decode bytes = some meaning ↔
    ∃ byte, bytes = part.control byte ∧ connection (part.channels byte) = some meaning := by
  -- a part with one register reads one byte, a part with more of them a register and a byte
  cases part with
  | ltc4306 =>
    rcases bytes with _ | ⟨register, _ | ⟨byte, _ | ⟨more, rest⟩⟩⟩
    · simp [decode, control]
    · simp [decode, control]
    · by_cases hregister : register = switchRegister <;> simp [decode, control, channels, hregister]
    · simp [decode, control]
  | _ =>
    rcases bytes with _ | ⟨byte, _ | ⟨more, rest⟩⟩
    · simp [decode, control]
    · simp [decode, control, channels]
    · simp [decode, control]

/-- A write is read as selecting a segment exactly if it switches on the channel of that segment alone, be the segment
one of the part or not. -/
theorem decode_eq_segment_iff : part.decode bytes = some (some segment) ↔
    ∃ c < 8, segment = ⟨UInt8.ofNat (c + 1)⟩ ∧ bytes = part.control (part.oneHot (UInt8.ofNat c)) := by
  rw [decode_eq_some_iff]
  simp only [connection_eq_segment_iff]
  constructor
  · rintro ⟨byte, rfl, c, hchannels, rfl⟩
    have hmem : c ∈ part.channels byte := by simp [hchannels]
    have hc : c < 8 := lt_of_mem_channels hmem
    have hbyte : byte = part.oneHot (UInt8.ofNat c) := channels_inj (hchannels.trans (channels_oneHot part hc).symm)
    exact ⟨c, hc, rfl, by rw [← hbyte]⟩
  · rintro ⟨c, hc, rfl, rfl⟩
    exact ⟨_, rfl, c, channels_oneHot part hc, rfl⟩

theorem decode_eq_clear_iff : part.decode bytes = some none ↔ bytes = part.deselect := by
  have hdeselect : part.deselect = part.control 0 := by cases part <;> rfl
  rw [decode_eq_some_iff, hdeselect]
  simp only [connection_eq_clear_iff]
  constructor
  · rintro ⟨byte, rfl, hchannels⟩
    rw [channels_inj (hchannels.trans (channels_zero part).symm)]
  · rintro rfl
    exact ⟨0, rfl, channels_zero part⟩

theorem select?_eq_ite (part : MuxPart) (segment : SegmentId) : part.select? segment =
    if segment.number ≠ 0 ∧ segment.number - 1 < part.maxSegments then
      some (part.control (part.oneHot (segment.number - 1)))
    else none := by
  unfold select? SegmentId.channel?
  by_cases hzero : segment.number = 0
  · simp [hzero]
  · by_cases hlt : segment.number - 1 < part.maxSegments
    · simp only [hzero, if_false, hlt, if_true, ne_eq, not_false_eq_true, and_self]
      cases part <;> rfl
    · simp [hzero, hlt]

theorem number_of_channel : ∀ c < 8, UInt8.ofNat (c + 1) ≠ 0 ∧ UInt8.ofNat (c + 1) - 1 = UInt8.ofNat c ∧
    (UInt8.ofNat c).toNat = c ∧ (UInt8.ofNat (c + 1)).toNat = c + 1 := by
  decide

theorem maxSegments_le (part : MuxPart) : part.maxSegments.toNat ≤ 8 := by
  cases part <;> decide

/-- A segment is selected by switching on its channel, if the part has it. -/
theorem select?_eq_some_iff : part.select? segment = some bytes ↔
    ∃ c < part.maxSegments.toNat, segment = ⟨UInt8.ofNat (c + 1)⟩ ∧
      bytes = part.control (part.oneHot (UInt8.ofNat c)) := by
  rw [select?_eq_ite]
  constructor
  · intro h
    split at h
    · rename_i hsegment
      obtain ⟨hzero, hlt⟩ := hsegment
      obtain rfl := Option.some.inj h
      refine ⟨(segment.number - 1).toNat, UInt8.lt_iff_toNat_lt.mp hlt, ?_, by rw [UInt8.ofNat_toNat]⟩
      rw [UInt8.ofNat_add, UInt8.ofNat_toNat]
      simp
    · cases h
  · rintro ⟨c, hc, rfl, rfl⟩
    obtain ⟨hzero, hpred, htoNat, -⟩ := number_of_channel c (Nat.lt_of_lt_of_le hc part.maxSegments_le)
    have hlt : UInt8.ofNat c < part.maxSegments := by
      rw [UInt8.lt_iff_toNat_lt, htoNat]
      exact hc
    rw [if_pos ⟨hzero, hpred ▸ hlt⟩, hpred]

/-! ## Reading back -/

/-- The bytes switch on the channel of a segment beyond the last one of the part, as if the part had eight. -/
def Overreaches (part : MuxPart) (segment : SegmentId) (bytes : List UInt8) : Prop :=
  ∃ c < 8, part.maxSegments.toNat ≤ c ∧ segment = ⟨UInt8.ofNat (c + 1)⟩ ∧
    bytes = part.control (part.oneHot (UInt8.ofNat c))

/-- What bytes sent to a part are read as. -/
structure ReadsBack (part : MuxPart) (bytes : List UInt8) : Prop where
  segment_iff : ∀ segment, part.decode bytes = some (some segment) ↔
    part.select? segment = some bytes ∨ part.Overreaches segment bytes
  /-- For the segments of the part, reading undoes writing. -/
  own_segment_iff : ∀ segment : SegmentId, segment.number ≤ part.maxSegments →
    (part.decode bytes = some (some segment) ↔ part.select? segment = some bytes)
  clear_iff : part.decode bytes = some none ↔ bytes = part.deselect
  invalid_iff : part.decode bytes = none ↔ bytes ≠ part.deselect ∧
    ∀ segment, part.select? segment ≠ some bytes ∧ ¬part.Overreaches segment bytes
  /-- A part with eight segments lacks none. -/
  no_overreach : part.maxSegments = 8 → ∀ segment, ¬part.Overreaches segment bytes
  selects_one : ∀ segment segment', part.select? segment = some bytes → part.select? segment' = some bytes →
    segment = segment'
  selects_not_clears : ∀ segment, part.select? segment ≠ some part.deselect

theorem decode_eq_segment_iff_or : part.decode bytes = some (some segment) ↔
    part.select? segment = some bytes ∨ part.Overreaches segment bytes := by
  rw [decode_eq_segment_iff, select?_eq_some_iff]
  constructor
  · rintro ⟨c, hc, hsegment, hbytes⟩
    by_cases hown : c < part.maxSegments.toNat
    · exact Or.inl ⟨c, hown, hsegment, hbytes⟩
    · exact Or.inr ⟨c, hc, Nat.not_lt.mp hown, hsegment, hbytes⟩
  · rintro (⟨c, hown, hsegment, hbytes⟩ | ⟨c, hc, -, hsegment, hbytes⟩)
    · exact ⟨c, Nat.lt_of_lt_of_le hown part.maxSegments_le, hsegment, hbytes⟩
    · exact ⟨c, hc, hsegment, hbytes⟩

theorem not_overreaches_of_le (h : segment.number ≤ part.maxSegments) : ¬part.Overreaches segment bytes := by
  rintro ⟨c, hc, hbeyond, rfl, -⟩
  obtain ⟨-, -, -, hnumber⟩ := number_of_channel c hc
  rw [UInt8.le_iff_toNat_le, hnumber] at h
  omega

/-- **Reading control writes back.** Bytes sent to a part are read as selecting a segment exactly if they are the write
that selects it, segments beyond the last one of the part included, as clearing the part exactly if they are the write
that does, and as nothing otherwise. -/
theorem readsBack (part : MuxPart) (bytes : List UInt8) : part.ReadsBack bytes where
  segment_iff _ := decode_eq_segment_iff_or
  own_segment_iff segment hown := by
    rw [decode_eq_segment_iff_or, or_iff_left (not_overreaches_of_le hown)]
  clear_iff := decode_eq_clear_iff
  invalid_iff := by
    simp only [Option.eq_none_iff_forall_ne_some, Option.forall, ne_eq, decode_eq_clear_iff, decode_eq_segment_iff_or,
      not_or]
  no_overreach height segment := by
    rintro ⟨c, hc, hbeyond, -, -⟩
    rw [height] at hbeyond
    exact Nat.not_lt.mpr hbeyond hc
  selects_one segment segment' h h' := by
    have hread := decode_eq_segment_iff_or.mpr (Or.inl h)
    rw [decode_eq_segment_iff_or.mpr (Or.inl h')] at hread
    exact (Option.some.inj (Option.some.inj hread)).symm
  selects_not_clears segment h := by
    have hread := decode_eq_segment_iff_or.mpr (Or.inl h)
    rw [decode_eq_clear_iff.mpr rfl] at hread
    cases hread

end MuxPart

namespace FifthChannel

/-- A part with four segments has no write that selects a fifth, yet it reads a write as selecting that one. -/
theorem decode_eq : MuxPart.pca9545.maxSegments = 4 ∧ MuxPart.pca9545.select? ⟨5⟩ = none ∧
    MuxPart.pca9545.decode [0x10] = some (some ⟨5⟩) := by
  decide

end FifthChannel

end I2cTopology
