import Mathlib.Logic.Function.Basic
import I2cTopology.Proofs.Bus.Access
import I2cTopology.Proofs.Bus.Registers

/-!
# Devices behind multiplexers as a flat store

A `FlatStore` keeps the contents of every device under its place, with no bus, multiplexer or server in between, and
`Cell.perform` is what an operation returns and leaves there. `FlatStore.Explains` says how a run looks to somebody who
knows such a store and the faults that were injected: an operation is denied to a task that does not own the handle,
or spends one of the faults, or returns and leaves what the flat store does.

- one event of a run keeps the layout, and the beliefs right while the lock is not poisoned (`Layout.Guards.react`);
- every run of tasks on a sound layout, with faults, discarded routing and interrupted holders of the lock in any
  order, is explained by the flat store of its devices (`SharedServer.run_explained`).
-/

namespace I2cTopology

/-! ## Operations -/

/-- What a task may ask of a device. -/
inductive Operation where
  | read (buffer : Buffer)
  | write (bytes : List UInt8)
  | writeRead (bytes : List UInt8) (buffer : Buffer)
  | readReg (register : UInt8) (buffer : Buffer)
  | writeReg (register : UInt8) (bytes : List UInt8)
  | readBlock (register : UInt8) (buffer : Buffer)

namespace Operation

/-- The buffer that an operation is given to fill. -/
def buffer : Operation → Buffer
  | read buffer | writeRead _ buffer | readReg _ buffer | readBlock _ buffer => buffer
  | write _ | writeReg _ _ => []

/-- What an operation puts on the wire: the register it chooses and the data for it. -/
def bytes : Operation → List UInt8
  | read _ => []
  | write bytes | writeRead bytes _ => bytes
  | readReg register _ | readBlock register _ => [register]
  | writeReg register bytes => register :: bytes

def op : Operation → Op
  | readBlock _ _ => .writeReadBlock
  | _ => .writeRead

/-- An operation through a handle. One that only writes reads nothing. -/
def dialogue (h : DeviceHandle) : Operation → Dialogue (Reply AccessError)
  | read buffer => h.read buffer
  | write bytes => (h.write bytes).map fun result => ⟨result.map fun _ => 0, []⟩
  | writeRead bytes buffer => h.writeRead bytes buffer
  | readReg register buffer => h.readReg register buffer
  | writeReg register bytes => (h.writeReg register bytes).map fun result => ⟨result.map fun _ => 0, []⟩
  | readBlock register buffer => h.readBlock register buffer

/-- What a task sees of the reply to an operation. -/
def seen (o : Operation) (reply : Reply AccessError) : Reply AccessError :=
  match o with
  | write _ | writeReg _ _ => ⟨reply.result.map fun _ => 0, []⟩
  | _ => reply

/-- An operation is one request, of whose reply the task sees what concerns it. -/
theorem run_dialogue {τ : Type} [Transport τ] (o : Operation) (h : DeviceHandle) (t : τ) :
    ((o.dialogue h).run t).value = o.seen (Transport.send t (h.request o.op o.bytes) o.buffer).reply ∧
      ((o.dialogue h).run t).transport = (Transport.send t (h.request o.op o.bytes) o.buffer).transport := by
  have hmap : ∀ result : Except AccessError Nat,
      Reply.mk ((result.map fun _ => ()).map fun _ => 0) [] = ⟨result.map fun _ => 0, []⟩ := by
    rintro (_ | _) <;> rfl
  cases o with
  | write bytes =>
    simp only [dialogue, DeviceHandle.write, Dialogue.run_map]
    exact ⟨hmap _, rfl⟩
  | writeReg register bytes =>
    simp only [dialogue, DeviceHandle.writeReg, DeviceHandle.write, Dialogue.run_map]
    exact ⟨hmap _, rfl⟩
  | _ => exact ⟨rfl, rfl⟩

theorem seen_error (o : Operation) (e : AccessError) : o.seen ⟨.error e, o.buffer⟩ = ⟨.error e, o.buffer⟩ := by
  cases o <;> rfl

theorem exists_ok_of_seen {o : Operation} {reply : Reply AccessError} {n : Nat} (h : (o.seen reply).result = .ok n) :
    ∃ m, reply.result = .ok m := by
  cases hr : reply.result with
  | ok m => exact ⟨m, rfl⟩
  | error e => cases o <;> simp [seen, hr, Except.map] at h

end Operation

/-- A reply that succeeded. -/
def Reply.answer (answer : Nat × Buffer) : Reply AccessError := ⟨.ok answer.1, answer.2⟩

/-! ## The flat store -/

/-- The contents of a device: the register that the next byte is read from, its registers and its blocks. -/
structure Cell where
  pointer : UInt8
  registers : UInt8 → UInt8
  blocks : UInt8 → List UInt8

namespace Cell

/-- Chooses a register by the first byte and stores the others from there on, each at its distance. -/
def store (c : Cell) : List UInt8 → Cell
  | [] => c
  | first :: data =>
    { c with pointer := first, registers := fun r => data.getD (r - first).toNat (c.registers r) }

/-- Reads `n` bytes from the pointer on and moves the pointer behind them. -/
def fill (c : Cell) (n : Nat) : (Nat × Buffer) × Cell :=
  ((n, (List.range n).map fun j => c.registers (c.pointer + UInt8.ofNat j)),
    { c with pointer := c.pointer + UInt8.ofNat n })

/-- Reads as much of the block at the pointer as the buffer holds; the rest of the buffer stays. -/
def block (c : Cell) (buffer : Buffer) : Nat × Buffer :=
  let n := min buffer.length (c.blocks c.pointer).length
  (n, (c.blocks c.pointer).take n ++ buffer.drop n)

/-- What an operation returns and leaves of a device's contents. -/
def perform (c : Cell) : Operation → (Nat × Buffer) × Cell
  | .read buffer => c.fill buffer.length
  | .write bytes => ((0, []), c.store bytes)
  | .writeRead bytes buffer => (c.store bytes).fill buffer.length
  | .readReg register buffer => (c.store [register]).fill buffer.length
  | .writeReg register bytes => ((0, []), c.store (register :: bytes))
  | .readBlock register buffer => ((c.store [register]).block buffer, c.store [register])

theorem fill_zero (c : Cell) : c.fill 0 = ((0, []), c) := by
  simp [fill]

end Cell

/-- The contents of every device, by place. -/
abbrev FlatStore := DevicePlace → Option Cell

def SimDevice.cell (d : SimDevice) : Cell := ⟨d.pointer, d.registers, d.blocks⟩

def FlatStore.of (devices : List SimDevice) : FlatStore := fun place =>
  (devices.find? fun d => d.toDevicePlace = place).map (·.cell)

namespace SimDevice

theorem cell_write (d : SimDevice) {bytes : List UInt8} (h : bytes.length ≤ 255) :
    (d.write bytes).cell = d.cell.store bytes := by
  cases bytes with
  | nil => rfl
  | cons first data =>
    rw [List.length_cons] at h
    have hstore : d.registers.store first data = fun r => data.getD (r - first).toNat (d.registers r) :=
      funext fun r => Registers.store_apply data d.registers first r (by omega)
    simp only [write, cell, Cell.store, hstore]

theorem exchange_writeRead (d : SimDevice) {bytes : List UInt8} (h : bytes.length ≤ 255) (buffer : Buffer) :
    ((d.exchange .writeRead bytes buffer).1, (d.exchange .writeRead bytes buffer).2.cell) =
      (d.cell.store bytes).fill buffer.length := by
  rw [← d.cell_write h]
  simp only [exchange, read, Registers.length_load]
  rw [Registers.load_eq_map]
  rfl

theorem exchange_writeReadBlock (d : SimDevice) {bytes : List UInt8} (h : bytes.length ≤ 255) (buffer : Buffer) :
    ((d.exchange .writeReadBlock bytes buffer).1, (d.exchange .writeReadBlock bytes buffer).2.cell) =
      ((d.cell.store bytes).block buffer, d.cell.store bytes) := by
  rw [← d.cell_write h]
  simp only [exchange, readBlock, Cell.block, List.length_take, ← List.take_eq_take_min]
  rfl

/-- A transaction with a device returns and leaves what the operation does to its contents. -/
theorem exchange_eq_perform (d : SimDevice) {o : Operation} (h : o.bytes.length ≤ 255) :
    o.seen (.answer (d.exchange o.op o.bytes o.buffer).1) = .answer (d.cell.perform o).1 ∧
      (d.exchange o.op o.bytes o.buffer).2.cell = (d.cell.perform o).2 := by
  cases o with
  | write bytes =>
    refine ⟨rfl, (Prod.ext_iff.mp (d.exchange_writeRead h [])).2.trans ?_⟩
    exact congrArg Prod.snd (d.cell.store bytes).fill_zero
  | writeReg register bytes =>
    refine ⟨rfl, (Prod.ext_iff.mp (d.exchange_writeRead h [])).2.trans ?_⟩
    exact congrArg Prod.snd (d.cell.store (register :: bytes)).fill_zero
  | readBlock register buffer =>
    obtain ⟨hreply, hcell⟩ := Prod.ext_iff.mp (d.exchange_writeReadBlock h buffer)
    exact ⟨congrArg Reply.answer hreply, hcell⟩
  | read buffer | writeRead bytes buffer | readReg register buffer =>
    obtain ⟨hreply, hcell⟩ := Prod.ext_iff.mp (d.exchange_writeRead h buffer)
    exact ⟨congrArg Reply.answer hreply, hcell⟩

end SimDevice

/-- Replacing the device at a place by one with other contents changes the store there and nowhere else. -/
theorem FlatStore.of_set {devices : List SimDevice} (hn : (devices.map (·.toDevicePlace)).Nodup) {i : Nat}
    {d e : SimDevice} (hd : devices[i]? = some d) (he : e.toDevicePlace = d.toDevicePlace) :
    FlatStore.of (devices.set i e) = Function.update (FlatStore.of devices) d.toDevicePlace (some e.cell) := by
  funext place
  unfold FlatStore.of
  rw [KeyedList.find?_set_of_nodup he place hn hd, Function.update_apply]
  split <;> rfl

theorem FlatStore.of_apply {devices : List SimDevice} (hn : (devices.map (·.toDevicePlace)).Nodup) {d : SimDevice}
    (hd : d ∈ devices) : FlatStore.of devices d.toDevicePlace = some d.cell := by
  have hfind : devices.find? (fun k => k.toDevicePlace = d.toDevicePlace) = some d :=
    (KeyedList.find?_eq_some_iff_of_nodup (·.toDevicePlace) (by simp) hn).mpr ⟨hd, rfl⟩
  simp only [FlatStore.of, hfind, Option.map_some]

/-! ## Runs -/

/-- What happens around a shared server. -/
inductive Event where
  | operate (task : TaskId) (handle : DeviceHandle) (operation : Operation)
  /-- A fault is injected. -/
  | failNext (address : UInt8) (fault : BusFault)
  | discardRouting
  /-- A holder of the lock is interrupted, in the midst of control writes perhaps: it leaves any beliefs and any
  latches behind. -/
  | interrupt (belief : Bus → RoutingState) (latch : SimMux → Option SegmentId)

/-- What is seen of an event. -/
inductive Observation where
  | replied (task : TaskId) (handle : DeviceHandle) (operation : Operation) (reply : Reply AccessError)
  | injected (address : UInt8) (fault : BusFault)
  | routingLost

/-- The board with other segments connected. -/
def SimBoard.connectAll (b : SimBoard) (latch : SimMux → Option SegmentId) : SimBoard :=
  { b with muxes := b.muxes.map fun m => { m with selected := latch m } }

theorem SimBoard.selected_new (muxes : List MuxDescriptor) (id : MuxId) : (SimBoard.new muxes).selected id = none := by
  unfold selected
  cases hfind : (SimBoard.new muxes).muxes.find? (·.descriptor.id == id) with
  | none => rfl
  | some sm =>
    obtain ⟨m, -, rfl⟩ := List.mem_map.mp (List.mem_of_find?_eq_some hfind)
    rfl

namespace SharedServer

/-- One event: what is seen of it and what it leaves. -/
def react (s : SharedServer SimBoard) : Event → Observation × SharedServer SimBoard
  | .operate task handle operation =>
    let outcome := (operation.dialogue handle).run (⟨task, s⟩ : Client SimBoard)
    (.replied task handle operation outcome.value, outcome.transport.shared)
  | .failNext address fault =>
    (.injected address fault, { s with server := { s.server with wire := s.server.wire.failNext address fault } })
  | .discardRouting => (.routingLost, { s with server := s.server.discardRouting })
  | .interrupt belief latch =>
    (.routingLost, ⟨{ s.server.believe belief with wire := s.server.wire.connectAll latch }, true⟩)

/-- A run of events: what is seen of them, in order, and what they leave. -/
def run (s : SharedServer SimBoard) : List Event → List Observation × SharedServer SimBoard
  | [] => ([], s)
  | e :: es =>
    let (observation, s) := s.react e
    let (observations, s) := s.run es
    (observation :: observations, s)

end SharedServer

/-- An operation goes to one of the places, with fewer than 255 bytes of data. -/
def Event.Fits (places : List DevicePlace) : Event → Prop
  | .operate _ handle operation => handle.toDevicePlace ∈ places ∧ operation.bytes.tail.length < 255
  | _ => True

/-- The observations are explained by a store and pending faults, and leave the final store. -/
inductive FlatStore.Explains : FlatStore → List (UInt8 × BusFault) → List Observation → FlatStore → Prop
  | done {store pending} : Explains store pending [] store
  /-- An owner's operation returns and leaves what the store does. -/
  | performed {store pending rest final task handle operation cell} :
    handle.owner = task → store handle.toDevicePlace = some cell →
    Explains (Function.update store handle.toDevicePlace (some (cell.perform operation).2)) pending rest final →
    Explains store pending (.replied task handle operation (.answer (cell.perform operation).1) :: rest) final
  /-- An operation with somebody else's handle is denied and changes nothing. -/
  | denied {store pending rest final task handle operation} :
    handle.owner ≠ task → Explains store pending rest final →
    Explains store pending
      (.replied task handle operation ⟨.error (.capabilityDenied handle.owner task), operation.buffer⟩ :: rest) final
  /-- An owner's operation meets one of the faults, which is spent, and changes nothing else. -/
  | faulted {store pending left rest final task handle operation address fault error} :
    handle.owner = task → pending.Perm ((address, fault) :: left) → AccessError.fault? error = some fault →
    Explains store left rest final →
    Explains store pending (.replied task handle operation ⟨.error error, operation.buffer⟩ :: rest) final
  | injected {store pending rest final address fault} :
    Explains store ((address, fault) :: pending) rest final →
    Explains store pending (.injected address fault :: rest) final
  /-- Lost routing is not seen. -/
  | routingLost {store pending rest final} :
    Explains store pending rest final → Explains store pending (.routingLost :: rest) final

/-! ## Operations through the lock -/

namespace SharedServer

variable {s : SharedServer SimBoard}

/-- What the server makes of an operation once the lock is taken. -/
def serve (s : SharedServer SimBoard) (handle : DeviceHandle) (operation : Operation) : Served SimBoard :=
  (Client.lock s).1.handle (handle.request operation.op operation.bytes) operation.buffer

/-- An operation of the owner of a handle is served and leaves the lock in order. -/
theorem react_operate_owner (s : SharedServer SimBoard) (handle : DeviceHandle) (operation : Operation) :
    s.react (.operate handle.owner handle operation) =
      (.replied handle.owner handle operation (operation.seen (s.serve handle operation).reply),
        ⟨(s.serve handle operation).server, false⟩) := by
  obtain ⟨hvalue, htransport⟩ := operation.run_dialogue handle (⟨handle.owner, s⟩ : Client SimBoard)
  have hsend := Client.send_of_owner (c := ⟨handle.owner, s⟩)
    (show (handle.request operation.op operation.bytes).owner = handle.owner from rfl) operation.buffer
  simp only [react, hvalue, htransport, Transport.send, hsend, serve]

/-- An operation with somebody else's handle is denied and leaves the server as it was. -/
theorem react_operate_of_ne {task : TaskId} {handle : DeviceHandle}
    (h : handle.owner ≠ task) (operation : Operation) : s.react (.operate task handle operation) =
      (.replied task handle operation ⟨.error (.capabilityDenied handle.owner task), operation.buffer⟩, s) := by
  obtain ⟨hvalue, htransport⟩ := operation.run_dialogue handle (⟨task, s⟩ : Client SimBoard)
  have hsend : Transport.send (⟨task, s⟩ : Client SimBoard) (handle.request operation.op operation.bytes)
      operation.buffer = ⟨⟨.error (.capabilityDenied handle.owner task), operation.buffer⟩, ⟨task, s⟩,
        [.warn s!"task {task.number} denied access to a device owned by task {handle.owner.number}"]⟩ := by
    show Client.send _ _ _ = _
    simp only [Client.send, DeviceHandle.request, ne_eq, h, not_false_eq_true, if_true]
  simp only [react, hvalue, htransport, hsend, operation.seen_error]

end SharedServer

/-- An operation addresses no multiplexer. -/
def Event.OffMuxes (muxes : List MuxDescriptor) : Event → Prop
  | .operate _ handle _ => handle.toDevicePlace.OffMuxes muxes
  | _ => True

/-! ## What an event keeps -/

namespace Layout

variable {l : Layout} {s : SharedServer SimBoard}

/-- A shared server of the layout, whose beliefs are right unless somebody was interrupted. -/
structure Guards (l : Layout) (s : SharedServer SimBoard) : Prop where
  holds : l.Holds s.server
  right : s.poisoned = false → s.server.BeliefsRight

/-- Who has taken the lock finds a server of the layout whose beliefs are right, over the same board. -/
theorem Guards.lock (h : l.Guards s) :
    l.Holds (Client.lock s).1 ∧ (Client.lock s).1.BeliefsRight ∧ (Client.lock s).1.wire = s.server.wire := by
  unfold Client.lock
  cases hp : s.poisoned with
  | true => exact ⟨h.holds.discardRouting, s.server.beliefsRight_discardRouting, rfl⟩
  | false => exact ⟨h.holds, h.right hp, rfl⟩

theorem Holds.nodup_places (h : l.Holds s.server) (hl : l.Sound) :
    (s.server.wire.devices.map (·.toDevicePlace)).Nodup :=
  h.places_eq ▸ hl.places_distinct

/-- Losing the routing leaves the layout and every device. -/
theorem Guards.interrupt (h : l.Guards s) (belief : Bus → RoutingState) (latch : SimMux → Option SegmentId) :
    l.Guards (s.react (.interrupt belief latch)).2 where
  holds := by
    refine (h.holds.believe belief).withWire ?_ h.holds.places_eq
    have hcarries := h.holds.carries
    unfold SimBoard.Carries at hcarries ⊢
    simp only [SimBoard.connectAll, List.map_map]
    exact hcarries
  right hp := by cases hp

/-- An event keeps the layout, and right beliefs unless somebody was interrupted. -/
theorem Guards.react (h : l.Guards s) (hw : WellWired l.muxes) {e : Event} (he : e.OffMuxes l.muxes) :
    l.Guards (s.react e).2 := by
  cases e with
  | operate task handle operation =>
    by_cases howner : handle.owner = task
    · subst howner
      obtain ⟨hholds, hright, -⟩ := h.lock
      have hkept := hholds.kept_handle (r := handle.request operation.op operation.bytes) hw hright he operation.buffer
      rw [s.react_operate_owner]
      exact ⟨hkept.holds, fun _ => hkept.right⟩
    · rw [SharedServer.react_operate_of_ne howner]
      exact h
  | failNext address fault => exact ⟨h.holds.withWire h.holds.carries h.holds.places_eq, h.right⟩
  | discardRouting => exact ⟨h.holds.discardRouting, fun _ => s.server.beliefsRight_discardRouting⟩
  | interrupt belief latch => exact h.interrupt belief latch

/-- What an operation of the owner of a handle does to the devices of a shared server. -/
def Operated (s : SharedServer SimBoard) (handle : DeviceHandle) (operation : Operation) (cell : Cell)
    (reply : Reply AccessError) (after : SharedServer SimBoard) : Prop :=
  (reply = .answer (cell.perform operation).1 ∧
    FlatStore.of after.server.wire.devices = Function.update (FlatStore.of s.server.wire.devices)
      handle.toDevicePlace (some (cell.perform operation).2) ∧
    after.server.wire.faults = s.server.wire.faults) ∨
  ∃ error fault address, reply = ⟨.error error, operation.buffer⟩ ∧ error.fault? = some fault ∧
    after.server.wire.devices = s.server.wire.devices ∧
    s.server.wire.faults.Perm ((address, fault) :: after.server.wire.faults)

theorem Guards.operated (h : l.Guards s) (hl : l.Sound) {handle : DeviceHandle}
    (hplace : handle.toDevicePlace ∈ l.places) {operation : Operation} (hlength : operation.bytes.tail.length < 255) :
    ∃ cell, FlatStore.of s.server.wire.devices handle.toDevicePlace = some cell ∧
      ∃ reply after, s.react (.operate handle.owner handle operation) =
          (.replied handle.owner handle operation reply, after) ∧
        Operated s handle operation cell reply after := by
  have hsound := hl.soundAt hplace
  have halone := hl.not_rivals hplace (Client.lock s).1.wire.selected
  rw [← h.holds.places_eq] at hplace
  obtain ⟨d, hmem, hd⟩ := List.mem_map.mp hplace
  obtain ⟨i, hi⟩ := List.getElem?_of_mem hmem
  have hstored : FlatStore.of s.server.wire.devices handle.toDevicePlace = some d.cell :=
    hd ▸ FlatStore.of_apply (h.holds.nodup_places hl) hmem
  refine ⟨d.cell, hstored, _, _, s.react_operate_owner handle operation, ?_⟩
  obtain ⟨hholds, hright, hwire⟩ := h.lock
  have hbytes : operation.bytes.length ≤ 255 := by
    rw [List.length_tail] at hlength
    omega
  obtain ⟨hanswer, hcell⟩ := d.exchange_eq_perform hbytes
  have hended := hholds.ended_handle (r := handle.request operation.op operation.bytes) hsound halone hright
    (hwire ▸ hi) hd operation.buffer
  unfold AccessEnded at hended
  rw [hwire] at hended
  rcases hended with ⟨hreply, hdevices, hfaults⟩ | ⟨error, fault, address, hreply, herror, hdevices, hperm⟩
  · left
    refine ⟨?_, ?_, hfaults⟩
    · rw [SharedServer.serve, hreply]
      exact hanswer
    · have hset := FlatStore.of_set (h.holds.nodup_places hl) hi
        (d.toDevicePlace_exchange operation.op operation.bytes operation.buffer)
      rw [hcell, hd] at hset
      exact (congrArg FlatStore.of hdevices).trans hset
  · right
    refine ⟨error, fault, address, ?_, herror, hdevices, hperm⟩
    rw [SharedServer.serve, hreply, operation.seen_error]

end Layout

theorem Event.Fits.offMuxes {l : Layout} {e : Event} (h : e.Fits l.places) (hl : l.Sound) : e.OffMuxes l.muxes := by
  cases e with
  | operate task handle operation => exact hl.off_muxes _ h.1
  | _ => trivial

/-! ## Whole runs -/

namespace SharedServer

/-- A run of events on a sound layout is explained by the store of its devices and the faults that are pending. -/
theorem explains_run {l : Layout} (hl : l.Sound) {events : List Event} {s : SharedServer SimBoard}
    {pending : List (UInt8 × BusFault)} (h : l.Guards s) (hpending : pending.Perm s.server.wire.faults)
    (hfits : ∀ e ∈ events, e.Fits l.places) :
    FlatStore.Explains (.of s.server.wire.devices) pending (s.run events).1
      (.of (s.run events).2.server.wire.devices) := by
  -- the store and the pending faults follow the board, the faults up to their order
  induction events generalizing s pending with
  | nil => exact .done
  | cons e es ih =>
    have hfit : e.Fits l.places := hfits e List.mem_cons_self
    have hrest : ∀ f ∈ es, f.Fits l.places := fun f hf => hfits f (List.mem_cons_of_mem _ hf)
    have hnext : l.Guards (s.react e).2 := h.react hl.wired (hfit.offMuxes hl)
    unfold run
    cases e with
    | operate task handle operation =>
      by_cases howner : handle.owner = task
      · subst howner
        obtain ⟨hplace, hlength⟩ := hfit
        obtain ⟨cell, hcell, reply, after, hreact, hdone⟩ := h.operated hl hplace hlength
        rw [hreact] at hnext ⊢
        rcases hdone with ⟨rfl, hstore, hfaults⟩ | ⟨error, fault, address, rfl, herror, hdevices, hperm⟩
        · refine .performed rfl hcell ?_
          rw [← hstore]
          exact ih hnext (hfaults ▸ hpending) hrest
        · refine .faulted rfl (hpending.trans hperm) herror ?_
          rw [← hdevices]
          exact ih hnext (List.Perm.refl _) hrest
      · rw [react_operate_of_ne howner]
        exact .denied howner (ih h hpending hrest)
    | failNext address fault =>
      refine .injected (ih hnext ?_ hrest)
      exact (hpending.cons _).trans (List.perm_append_singleton _ _).symm
    | discardRouting => exact .routingLost (ih hnext hpending hrest)
    | interrupt belief latch => exact .routingLost (ih hnext hpending hrest)

/-- A server over a new board with the given devices. -/
def new (controllers : List ControllerDescriptor) (muxes : List MuxDescriptor) (devices : List SimDevice) :
    SharedServer SimBoard :=
  ⟨Server.new (devices.foldl SimBoard.addDevice (SimBoard.new muxes)) controllers muxes, false⟩

theorem foldl_addDevice (b : SimBoard) (devices : List SimDevice) :
    devices.foldl SimBoard.addDevice b = { b with devices := b.devices ++ devices } := by
  induction devices generalizing b with
  | nil => simp
  | cons d devices ih =>
    rw [List.foldl_cons, ih]
    simp [SimBoard.addDevice]

/-- Every run on a sound layout is that of a flat store: an operation that succeeds returns and leaves what it does in
the store, whatever was operated, injected, discarded or interrupted before, and one that fails was denied or met an
injected fault, and changes nothing. -/
theorem run_explained {controllers : List ControllerDescriptor} {muxes : List MuxDescriptor} {devices : List SimDevice}
    (hl : Layout.Sound ⟨controllers, muxes, devices.map (·.toDevicePlace)⟩) {events : List Event}
    (hfits : ∀ e ∈ events, e.Fits (devices.map (·.toDevicePlace))) :
    FlatStore.Explains (.of devices) [] ((new controllers muxes devices).run events).1
      (.of ((new controllers muxes devices).run events).2.server.wire.devices) := by
  have hboard : devices.foldl SimBoard.addDevice (SimBoard.new muxes) = { SimBoard.new muxes with devices } :=
    foldl_addDevice (SimBoard.new muxes) devices
  have hcarries : (SimBoard.new muxes).Carries muxes := by
    unfold SimBoard.Carries SimBoard.new
    rw [List.map_map]
    exact List.map_id _
  have hguards : Layout.Guards ⟨controllers, muxes, devices.map (·.toDevicePlace)⟩
      (new controllers muxes devices) := by
    refine ⟨?_, fun _ => ?_⟩
    · unfold new
      rw [hboard]
      exact Layout.holds_new hcarries rfl
    · refine Server.beliefsRight_new fun id => ?_
      rw [hboard]
      exact SimBoard.selected_new muxes id
  have hdevices : (new controllers muxes devices).server.wire.devices = devices := by
    unfold new
    rw [hboard]
    rfl
  have hfaults : [].Perm (new controllers muxes devices).server.wire.faults := by
    unfold new
    rw [hboard]
    rfl
  have hrun := explains_run hl hguards hfaults hfits
  rw [hdevices] at hrun
  exact hrun

end SharedServer

/-! ## Two devices at one address -/

namespace TwoMuxes

def controllers : List ControllerDescriptor := [⟨⟨1⟩, .initiator, 1⟩]

def muxes : List MuxDescriptor :=
  [⟨⟨0⟩, ⟨1⟩, ⟨0⟩, .pca9546, 0x70, 4, none⟩, ⟨⟨1⟩, ⟨1⟩, ⟨0⟩, .ltc4306, 0x71, 2, none⟩]

def near : DevicePlace := ⟨⟨1⟩, ⟨0⟩, some ⟨⟨0⟩, ⟨3⟩⟩, 0x48⟩

def far : DevicePlace := ⟨⟨1⟩, ⟨0⟩, some ⟨⟨1⟩, ⟨2⟩⟩, 0x48⟩

def devices : List SimDevice := [.new near, .new far]

/-- Both devices are written to, then the near one is read across a fault on the way to it and an interruption. -/
def events : List Event :=
  [.operate ⟨1⟩ (near.bind ⟨1⟩) (.writeReg 5 [1, 2]), .operate ⟨2⟩ (far.bind ⟨2⟩) (.writeReg 5 [3]),
    .failNext 0x71 .noAck, .operate ⟨1⟩ (near.bind ⟨1⟩) (.readReg 5 [0, 0]),
    .interrupt (fun _ => .noSegmentActive) (fun _ => none), .operate ⟨1⟩ (near.bind ⟨1⟩) (.readReg 5 [0, 0]),
    .operate ⟨1⟩ (far.bind ⟨2⟩) (.read [0])]

theorem sound : Layout.Sound ⟨controllers, muxes, devices.map (·.toDevicePlace)⟩ := by
  refine ⟨by decide, ⟨by decide, by decide, by decide⟩, by decide, by decide, ?_, by decide, by decide⟩
  intro q hq route hroute
  obtain rfl | rfl := List.mem_pair.mp hq
  · cases hroute
    decide
  · cases hroute
    decide

theorem fits : ∀ e ∈ events, e.Fits (devices.map (·.toDevicePlace)) := by
  simp [events, devices, Event.Fits, Operation.bytes, DevicePlace.bind, SimDevice.new]

end TwoMuxes

open TwoMuxes in
/-- A run on two devices that share an address behind two multiplexers. -/
theorem SharedServer.run_explained_two_muxes :
    FlatStore.Explains (.of devices) [] ((new controllers muxes devices).run events).1
      (.of ((new controllers muxes devices).run events).2.server.wire.devices) :=
  run_explained sound fits

end I2cTopology
