import I2cTopology.Proofs.Bus.Registers
import I2cTopology.Proofs.Bus.Transactions

/-!
# Reading after writing

A write stores its data at growing distances from a register, and a read moves a pointer along; both go round at the
end of the register file.

- what is read back are the data where they were written and the earlier contents everywhere else, however long the
  read is, and whatever was done to the device before (`SimDevice.read_after_write`);
- a board with a device that answers alone at the place of a handle serves writing, reading and reading on through the
  handle in just this way (`SimBoard.Serves.writeThenRead_eq`).
-/

namespace I2cTopology

/-! ## Runs of registers -/

namespace Registers

/-- The register `q` is one of `n` consecutive ones from `register` on; the register after the last one is the first. -/
def InRun (register : UInt8) (n : Nat) (q : UInt8) : Prop := ∃ i < n, q.toNat = (register.toNat + i) % 256

instance (register : UInt8) (n : Nat) (q : UInt8) : Decidable (InRun register n q) :=
  inferInstanceAs (Decidable (∃ i < n, q.toNat = (register.toNat + i) % 256))

variable {register q : UInt8} {n : Nat}

theorem inRun_of_lt (h : (q - register).toNat < n) : InRun register n q := by
  refine ⟨(q - register).toNat, h, ?_⟩
  rw [UInt8.toNat_sub]
  have := register.toNat_lt
  have := q.toNat_lt
  omega

/-- Storing a run of bytes leaves the registers outside of the run. -/
theorem store_of_not_inRun (regs : Registers) {data : List UInt8} (h : ¬InRun register data.length q) :
    regs.store register data q = regs q := by
  have hlength : data.length ≤ (q - register).toNat := Nat.le_of_not_lt fun hlt => h (inRun_of_lt hlt)
  have hlt := (q - register).toNat_lt
  rw [store_apply data regs register q (by omega), List.getD_eq_default _ _ hlength]

/-- A register that lies some way from `register`, as a distance from there. -/
theorem toNat_add_sub (register : UInt8) (j : Nat) : (register + UInt8.ofNat j - register).toNat = j % 256 := by
  rw [UInt8.add_comm, UInt8.add_sub_cancel, UInt8.toNat_ofNat']

end Registers

namespace SimDevice

/-! ## Registers that were never written -/

/-- What may be done to a device: presets, and transactions. -/
inductive Handling where
  | preset (register : UInt8) (bytes : List UInt8)
  | presetBlock (register : UInt8) (bytes : List UInt8)
  | transact (op : Op) (write : List UInt8) (buffer : Buffer)

/-- Whether a register is written to. -/
def Handling.Writes : Handling → UInt8 → Prop
  | .preset register bytes, q => Registers.InRun register bytes.length q
  | .presetBlock _ _, _ => False
  | .transact _ [] _, _ => False
  | .transact _ (register :: data) _, q => Registers.InRun register data.length q

def undergo (d : SimDevice) : Handling → SimDevice
  | .preset register bytes => d.withRegister register bytes
  | .presetBlock register bytes => d.withBlock register bytes
  | .transact op write buffer => (d.exchange op write buffer).2

variable {d : SimDevice} {register q : UInt8} {data : List UInt8}

theorem registers_exchange (d : SimDevice) (op : Op) (write : List UInt8) (buffer : Buffer) :
    (d.exchange op write buffer).2.registers = (d.write write).registers := by
  cases op <;> rfl

theorem registers_undergo {k : Handling} (h : ¬k.Writes q) : (d.undergo k).registers q = d.registers q := by
  cases k with
  | preset register bytes => exact d.registers.store_of_not_inRun h
  | presetBlock register bytes => rfl
  | transact op write buffer =>
    unfold undergo
    rw [registers_exchange]
    cases write with
    | nil => rfl
    | cons register data => exact d.registers.store_of_not_inRun h

/-- A register keeps its value over everything that does not write to it. -/
theorem registers_foldl_undergo {handlings : List Handling} (h : ∀ k ∈ handlings, ¬k.Writes q) :
    (handlings.foldl undergo d).registers q = d.registers q := by
  induction handlings generalizing d with
  | nil => rfl
  | cons k ks ih =>
    rw [List.forall_mem_cons] at h
    rw [List.foldl_cons, ih h.2, registers_undergo h.1]

/-- Nothing was written to a register since the device was new. -/
def NeverWritten (d : SimDevice) (q : UInt8) : Prop :=
  ∃ place, ∃ handlings : List Handling, d = handlings.foldl undergo (.new place) ∧ ∀ k ∈ handlings, ¬k.Writes q

theorem NeverWritten.eq_zero (h : d.NeverWritten q) : d.registers q = 0 := by
  obtain ⟨place, handlings, rfl, hunwritten⟩ := h
  exact registers_foldl_undergo hunwritten

/-! ## Reading back -/

/-- What a read of `n` bytes from `register` on gives and leaves after `data` have been written there to the device
`d`. -/
structure ReadAfterWrite (d : SimDevice) (register : UInt8) (data : List UInt8) (n : Nat) (bytes : List UInt8)
    (after : SimDevice) : Prop where
  length_eq : bytes.length = n
  /-- The data come back, every time that the read comes round to them. -/
  stored : ∀ j < n, ∀ byte, data[j % 256]? = some byte → bytes[j]? = some byte
  /-- Elsewhere the earlier contents come back. -/
  kept : ∀ j < n, data.length ≤ j % 256 → bytes[j]? = some (d.registers (UInt8.ofNat (register.toNat + j)))
  /-- They are zero where nothing was ever written. -/
  unwritten : ∀ j < n, data.length ≤ j % 256 → d.NeverWritten (UInt8.ofNat (register.toNat + j)) →
    bytes[j]? = some 0
  /-- The next byte would be the one behind the last. -/
  pointer_eq : after.pointer.toNat = (register.toNat + n) % 256
  /-- No register but those of the data has changed. -/
  registers_eq : ∀ q, ¬Registers.InRun register data.length q → after.registers q = d.registers q
  blocks_eq : after.blocks = d.blocks

/-- The device after `data` have been written from `register` on and the register has been chosen for reading. -/
def writtenAt (d : SimDevice) (register : UInt8) (data : List UInt8) : SimDevice :=
  (d.write (register :: data)).write [register]

/-- A read in two parts, of which the second goes on where the first one stopped. -/
theorem read_add (d : SimDevice) (m n : Nat) :
    d.read (m + n) = ((d.read m).1 ++ ((d.read m).2.read n).1, ((d.read m).2.read n).2) := by
  unfold read
  rw [Registers.load_add, UInt8.ofNat_add, UInt8.add_assoc]

theorem read_zero (d : SimDevice) : d.read 0 = ([], d) := by
  simp [read, Registers.load]

theorem getElem?_read_writtenAt (d : SimDevice) (register : UInt8) (h : data.length ≤ 256) {n j : Nat} (hj : j < n) :
    ((d.writtenAt register data).read n).1[j]? =
      some (data.getD (j % 256) (d.registers (UInt8.ofNat (register.toNat + j)))) := by
  show ((d.registers.store register data).load register n)[j]? = _
  -- the byte is looked for `j` registers on, which is at the distance `j % 256` that the data were stored at
  rw [Registers.load_eq_map, List.getElem?_map, List.getElem?_range hj, Option.map_some,
    Registers.store_apply _ _ _ _ h, Registers.toNat_add_sub, UInt8.ofNat_add, UInt8.ofNat_toNat]

theorem readAfterWrite (d : SimDevice) (register : UInt8) (h : data.length ≤ 256) (n : Nat) :
    d.ReadAfterWrite register data n ((d.writtenAt register data).read n).1
      ((d.writtenAt register data).read n).2 := by
  have hkept : ∀ j < n, data.length ≤ j % 256 → ((d.writtenAt register data).read n).1[j]? =
      some (d.registers (UInt8.ofNat (register.toNat + j))) := by
    intro j hj hlength
    rw [d.getElem?_read_writtenAt register h hj, List.getD_eq_default _ _ hlength]
  refine ⟨Registers.length_load _ _ _, fun j hj byte hb => ?_, hkept, fun j hj hlength hnever => ?_, ?_,
    fun q hq => d.registers.store_of_not_inRun hq, rfl⟩
  · rw [d.getElem?_read_writtenAt register h hj, List.getD_eq_getElem?_getD, hb, Option.getD_some]
  · rw [hkept j hj hlength, hnever.eq_zero]
  · show (register + UInt8.ofNat n).toNat = _
    rw [UInt8.toNat_add, UInt8.toNat_ofNat', Nat.add_mod_mod]

end SimDevice

/-! ## Over a board -/

namespace SimBoard

variable {b b' : SimBoard} {x : Exchange} {handle : DeviceHandle} {d : SimDevice} {i : Nat}

/-- A device in row `i` answers alone at the place of a handle, and no fault waits for it. -/
structure Serves (b : SimBoard) (handle : DeviceHandle) (d : SimDevice) (i : Nat) : Prop where
  clear : b.waiting handle.address = []
  off_muxes : b.muxAt (handle.request .writeRead []).toExchange = none
  alone : b.answering (handle.request .writeRead []).toExchange = [(d, i)]

/-- Whoever answers alone still does so with other contents. -/
theorem answering_set {e : SimDevice} (h : b.answering x = [(d, i)]) (he : e.toDevicePlace = d.toDevicePlace)
    (hmuxes : b'.muxes = b.muxes) (hdevices : b'.devices = b.devices.set i e) : b'.answering x = [(e, i)] := by
  have hmem : (d, i) ∈ b.answering x := h ▸ List.mem_singleton_self _
  have hpasses := (List.mem_filter.mp hmem).2
  have hsame : (e.isAt x.controller x.port x.address && b.isVisible e) =
      (d.isAt x.controller x.port x.address && b.isVisible d) := by
    unfold SimDevice.isAt isVisible
    rw [he]
  have hvisible : b'.isVisible = b.isVisible := by
    unfold isVisible
    rw [hmuxes]
  have hset := KeyedList.filter_zipIdx_set (p := fun k : SimDevice =>
    k.isAt x.controller x.port x.address && b.isVisible k) (n := 0) (i := i) (by rw [Nat.zero_add]; exact h)
    (hsame.trans hpasses)
  rw [Nat.zero_add] at hset
  unfold answering
  rw [hdevices, hvisible]
  exact hset

/-- A transaction with the device of a handle reaches the device, which answers alone afterwards as well. -/
theorem Serves.transact (hs : b.Serves handle d i) (write : List UInt8) (buffer : Buffer) :
    (b.transact (handle.request .writeRead write).toExchange buffer).1 =
        ⟨.ok buffer.length, ((d.write write).read buffer.length).1⟩ ∧
      (b.transact (handle.request .writeRead write).toExchange buffer).2.Serves handle
        ((d.write write).read buffer.length).2 i := by
  have hended := b.ended_transact (handle.request .writeRead write).toExchange buffer
  have hclear : b.Clear (handle.request .writeRead write).toExchange := hs.clear
  have hmux : b.muxAt (handle.request .writeRead write).toExchange = none := hs.off_muxes
  have halone : b.answering (handle.request .writeRead write).toExchange = [(d, i)] := hs.alone
  generalize b.transact (handle.request .writeRead write).toExchange buffer = sent at hended ⊢
  obtain ⟨reply, b'⟩ := sent
  cases hended with
  | failed hfails => cases hfails <;> simp_all [Clear]
  | polled _ hm _ | switched _ hm _ _ =>
    rw [hmux] at hm
    cases hm
  | answered _ _ hone =>
    obtain ⟨rfl, rfl⟩ : d = _ ∧ i = _ := by simpa [halone] using hone
    have hplace := d.toDevicePlace_exchange .writeRead write buffer
    refine ⟨?_, hs.clear, hs.off_muxes, answering_set hs.alone hplace rfl rfl⟩
    simp only [DeviceHandle.request, SimDevice.exchange, SimDevice.read, Registers.length_load]

/-- Three transactions with the device of a handle, and their replies: `data` are written from `register` on, `first` is
filled from there, and `rest` from where that stopped. -/
def writeThenRead (b : SimBoard) (handle : DeviceHandle) (register : UInt8) (data : List UInt8) (first rest : Buffer) :
    List (Reply BusFault) :=
  let written := b.transact (handle.request .writeRead (register :: data)).toExchange []
  let began := written.2.transact (handle.request .writeRead [register]).toExchange first
  let continued := began.2.transact (handle.request .writeRead []).toExchange rest
  [written.1, began.1, continued.1]

/-- Over a board a device gives what it gives on its own. -/
theorem Serves.writeThenRead_eq (hs : b.Serves handle d i) (register : UInt8) (data : List UInt8)
    (first rest : Buffer) :
    b.writeThenRead handle register data first rest =
      [⟨.ok 0, []⟩, ⟨.ok first.length, ((d.writtenAt register data).read first.length).1⟩,
        ⟨.ok rest.length, (((d.writtenAt register data).read first.length).2.read rest.length).1⟩] := by
  obtain ⟨hwritten, hs⟩ := hs.transact (register :: data) []
  rw [List.length_nil, SimDevice.read_zero] at hwritten hs
  obtain ⟨hbegan, hs⟩ := hs.transact [register] first
  obtain ⟨hcontinued, -⟩ := hs.transact [] rest
  unfold writeThenRead
  simp only [hwritten, hbegan, hcontinued]
  rfl

end SimBoard

/-- **Read after write.** Bytes read from a register on after data were written there are the data at their distances,
all round the register file, and the earlier contents everywhere else; the pointer is behind the last byte read, and no
other register and no block has changed. A read may be split in two anywhere, and over a board on which the device
answers alone it gives the same bytes. -/
theorem SimDevice.read_after_write (d : SimDevice) (register : UInt8) {data : List UInt8} (h : data.length < 255)
    (n : Nat) :
    d.ReadAfterWrite register data n ((d.writtenAt register data).read n).1
        ((d.writtenAt register data).read n).2 ∧
      (∀ m, (d.writtenAt register data).read (n + m) =
        (((d.writtenAt register data).read n).1 ++ (((d.writtenAt register data).read n).2.read m).1,
          (((d.writtenAt register data).read n).2.read m).2)) ∧
      ∀ (b : SimBoard) (handle : DeviceHandle) (i : Nat), b.Serves handle d i → ∀ first rest : Buffer,
        first.length = n → b.writeThenRead handle register data first rest =
          [⟨.ok 0, []⟩, ⟨.ok n, ((d.writtenAt register data).read n).1⟩,
            ⟨.ok rest.length, (((d.writtenAt register data).read n).2.read rest.length).1⟩] := by
  refine ⟨d.readAfterWrite register (by omega) n, (d.writtenAt register data).read_add n, ?_⟩
  rintro b handle i hs first rest rfl
  exact hs.writeThenRead_eq register data first rest

/-! ## Past the end of the register file -/

namespace LastRegisters

def place : DevicePlace := ⟨⟨1⟩, ⟨0⟩, none, 0x48⟩

def device : SimDevice := (SimDevice.new place).withRegister 0 [7, 8]

def board : SimBoard := (SimBoard.new []).addDevice device

theorem neverWritten : device.NeverWritten 2 := by
  refine ⟨place, [.preset 0 [7, 8]], rfl, fun k hk => ?_⟩
  obtain rfl := List.mem_singleton.mp hk
  show ¬Registers.InRun 0 2 2
  decide

/-- Three bytes are written to the last two registers and the first; the read goes round once and a little further. -/
theorem read_after_write_round : ([1, 2, 3] : List UInt8).length < 255 ∧
    device.ReadAfterWrite 254 [1, 2, 3] 258 ((device.writtenAt 254 [1, 2, 3]).read 258).1
      ((device.writtenAt 254 [1, 2, 3]).read 258).2 ∧
    ((device.writtenAt 254 [1, 2, 3]).read 258).1[257]? = some 2 ∧
    ((device.writtenAt 254 [1, 2, 3]).read 258).1[4]? = some 0 ∧
    board.writeThenRead (place.bind ⟨1⟩) 254 [1, 2, 3] [0, 0] [0, 0, 0] =
      [⟨.ok 0, []⟩, ⟨.ok 2, [1, 2]⟩, ⟨.ok 3, [3, 8, 0]⟩] :=
  have hlength : ([1, 2, 3] : List UInt8).length < 255 := by decide
  have hlong := device.read_after_write 254 hlength 258
  have hshort := device.read_after_write 254 hlength 2
  ⟨hlength, hlong.1, hlong.1.stored 257 (by decide) 2 rfl, hlong.1.unwritten 4 (by decide) (by decide) neverWritten,
    hshort.2.2 board (place.bind ⟨1⟩) 0 ⟨rfl, rfl, rfl⟩ [0, 0] [0, 0, 0] rfl⟩

end LastRegisters

end I2cTopology
