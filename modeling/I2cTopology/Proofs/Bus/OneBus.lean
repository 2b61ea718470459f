import I2cTopology.Proofs.Bus.Access
import I2cTopology.Proofs.Bus.Views

/-!
# What one bus sees

The server keeps the descriptors, beliefs, latches and devices of all its buses in lists that they share. `only c p`
shows of a board or a server what one bus can see: contents, latches, beliefs and transactions of other buses are left
out, while the layout of the whole board stays.

- without injected faults a transaction moves at most one latch or one device, on its own bus
  (`SimBoard.left_transact`);
- so a transaction on a bus does the same to what is shown of the bus (`SimBoard.Intact.transact_only`), and one on
  another bus is not shown (`SimBoard.only_transact`);
- and likewise a request (`Server.handle_only`, `Server.only_handle`).
-/

namespace I2cTopology

/-! ## One bus of a board -/

/-- Whether a transaction is on the given bus. -/
def Exchange.isOn (x : Exchange) (c : Controller) (p : PortIndex) : Bool := x.controller == c && x.port == p

theorem Exchange.isOn_iff {x : Exchange} {c : Controller} {p : PortIndex} :
    x.isOn c p = true ↔ x.controller = c ∧ x.port = p := by
  simp [isOn]

/-- Whether a place is on the given bus. -/
def DevicePlace.isOn (q : DevicePlace) (c : Controller) (p : PortIndex) : Bool := q.controller == c && q.port == p

theorem DevicePlace.isOn_iff {q : DevicePlace} {c : Controller} {p : PortIndex} :
    q.isOn c p = true ↔ q.controller = c ∧ q.port = p := by
  simp [isOn]

/-- The multiplexer, with what it connects if it is on the given bus. -/
def SimMux.only (c : Controller) (p : PortIndex) (m : SimMux) : SimMux :=
  if m.descriptor.isOn c p then m else { m with selected := none }

/-- The device, with its contents if it is on the given bus. -/
def SimDevice.only (c : Controller) (p : PortIndex) (d : SimDevice) : SimDevice :=
  if d.toDevicePlace.isOn c p then d else .new d.toDevicePlace

/-- Multiplexers have ids of their own, and a device is behind a multiplexer of its own bus if it is behind one. -/
structure RoutesApart (muxes : List MuxDescriptor) (places : List DevicePlace) : Prop where
  ids_distinct : (muxes.map (·.id)).Nodup
  on_own_bus : ∀ q ∈ places, ∀ route, q.route = some route →
    ∃ m ∈ muxes, m.isOn q.controller q.port = true ∧ m.id = route.mux

/-- What one bus sees of a board. -/
def SimBoard.only (c : Controller) (p : PortIndex) (b : SimBoard) : SimBoard where
  muxes := b.muxes.map (SimMux.only c p)
  devices := b.devices.map (SimDevice.only c p)
  faults := b.faults
  history := b.history.filter fun t => t.isOn c p

@[simp] theorem SimMux.descriptor_only (c : Controller) (p : PortIndex) (m : SimMux) :
    (m.only c p).descriptor = m.descriptor := by
  unfold only
  split <;> rfl

@[simp] theorem SimDevice.toDevicePlace_only (c : Controller) (p : PortIndex) (d : SimDevice) :
    (d.only c p).toDevicePlace = d.toDevicePlace := by
  unfold only
  split <;> rfl

theorem SimMux.isAt_only (c : Controller) (p : PortIndex) (m : SimMux) (k : Controller) (q : PortIndex) (a : UInt8) :
    (m.only c p).isAt k q a = m.isAt k q a := by
  simp only [isAt, descriptor_only]

theorem SimMux.only_of_isAt {c : Controller} {p : PortIndex} {m : SimMux} {a : UInt8} (h : m.isAt c p a = true) :
    m.only c p = m := by
  unfold isAt at h
  rw [Bool.and_eq_true] at h
  unfold only
  rw [if_pos h.1]

theorem SimDevice.isAt_eq (d : SimDevice) (c : Controller) (p : PortIndex) (a : UInt8) :
    d.isAt c p a = (d.toDevicePlace.isOn c p && d.address == a) := rfl

theorem SimDevice.only_of_isOn {c : Controller} {p : PortIndex} {d : SimDevice} (h : d.toDevicePlace.isOn c p = true) :
    d.only c p = d := by
  unfold only
  rw [if_pos h]

theorem SimDevice.only_eq_of_not_isOn {c : Controller} {p : PortIndex} {d e : SimDevice}
    (h : ¬d.toDevicePlace.isOn c p = true) (he : e.toDevicePlace = d.toDevicePlace) : e.only c p = d.only c p := by
  unfold only
  rw [he, if_neg h, if_neg h]

/-! ## What a transaction does to a board -/

/-- What a transaction without an injected fault leaves of a board. -/
inductive SimBoard.Left (b : SimBoard) (x : Exchange) (buffer : Buffer) : SimBoard → Prop
  /-- Nobody took notice of it. -/
  | unmoved : Left b x buffer (b.record x buffer)
  /-- A multiplexer on its bus has connected something else. -/
  | connected (segment : Option SegmentId) :
    Left b x buffer { b.record x buffer with muxes := connect x segment b.muxes }
  /-- A device on its bus has other contents. -/
  | touched {i : Nat} {d e : SimDevice} : b.devices[i]? = some d → d.toDevicePlace.isOn x.controller x.port = true →
    e.toDevicePlace = d.toDevicePlace → Left b x buffer { b.record x buffer with devices := b.devices.set i e }

namespace SimBoard

theorem transact_of_no_faults {b : SimBoard} (h : b.faults = []) (x : Exchange) (buffer : Buffer) :
    b.transact x buffer =
      match b.muxes.find? (·.isAt x.controller x.port x.address) with
      | some m => (b.record x buffer).transactMux m x buffer
      | none => (b.record x buffer).transactDevice x buffer :=
  transact_of_no_fault (by rw [h]; rfl) buffer

/-- A transaction without an injected fault moves at most one latch or one device, on its own bus. -/
theorem left_transact {b : SimBoard} (h : b.faults = []) (x : Exchange) (buffer : Buffer) :
    b.Left x buffer (b.transact x buffer).2 := by
  have hended := b.ended_transact x buffer
  generalize b.transact x buffer = sent at hended ⊢
  obtain ⟨reply, b'⟩ := sent
  cases hended with
  | failed _ =>
    have hnone : b.faults.eraseP (·.1 == x.address) = b.faults := by
      rw [h]
      rfl
    rw [hnone]
    exact .unmoved
  | polled _ _ _ => exact .unmoved
  | switched _ _ _ _ => exact .connected _
  | @answered d i _ _ hone =>
    obtain ⟨hd, hat⟩ := of_answering (hone ▸ List.mem_singleton_self (d, i))
    rw [SimDevice.isAt_eq, Bool.and_eq_true] at hat
    exact .touched hd hat.1 (d.toDevicePlace_exchange x.op x.write buffer)

/-! ## The layout of a board -/

/-- The board is built of the given multiplexers and has devices at the given places; no fault is waiting. -/
structure Intact (muxes : List MuxDescriptor) (places : List DevicePlace) (b : SimBoard) : Prop where
  carries : b.Carries muxes
  places_eq : b.devices.map (·.toDevicePlace) = places
  no_faults : b.faults = []

variable {muxes : List MuxDescriptor} {places : List DevicePlace} {b : SimBoard}

theorem Intact.left (h : b.Intact muxes places) {x : Exchange} {buffer : Buffer} {b' : SimBoard}
    (hleft : b.Left x buffer b') : b'.Intact muxes places := by
  cases hleft with
  | unmoved => exact ⟨h.carries, h.places_eq, h.no_faults⟩
  | connected segment => exact ⟨(map_descriptor_connect x segment b.muxes).trans h.carries, h.places_eq, h.no_faults⟩
  | @touched i d e hd _ he =>
    have hplaces : (b.devices.set i e).map (·.toDevicePlace) = b.devices.map (·.toDevicePlace) := by
      rw [List.map_set, he]
      refine KeyedList.set_eq_self ?_
      rw [List.getElem?_map, hd]
      rfl
    exact ⟨h.carries, hplaces.trans h.places_eq, h.no_faults⟩

/-- No transaction changes the layout of a board, nor lets a fault wait. -/
theorem Intact.transact (h : b.Intact muxes places) (x : Exchange) (buffer : Buffer) :
    (b.transact x buffer).2.Intact muxes places :=
  h.left (left_transact h.no_faults x buffer)

/-! ## Transactions on one bus -/

variable {c : Controller} {p : PortIndex} {x : Exchange}

theorem connect_only (c : Controller) (p : PortIndex) (x : Exchange) (segment : Option SegmentId) (ms : List SimMux) :
    (connect x segment ms).map (SimMux.only c p) =
      if x.isOn c p then connect x segment (ms.map (SimMux.only c p)) else ms.map (SimMux.only c p) := by
  induction ms with
  | nil => simp [connect]
  | cons m ms ih =>
    unfold connect
    simp only [List.map_cons, SimMux.isAt_only]
    by_cases hat : m.isAt x.controller x.port x.address = true
    · simp only [hat, if_true, List.map_cons]
      have hm : m.descriptor.isOn x.controller x.port = true := by
        unfold SimMux.isAt at hat
        rw [Bool.and_eq_true] at hat
        exact hat.1
      obtain ⟨hc, hp⟩ := MuxDescriptor.isOn_iff.mp hm
      have hon : m.descriptor.isOn c p = x.isOn c p := by
        simp only [MuxDescriptor.isOn, Exchange.isOn, hc, hp]
      unfold SimMux.only
      simp only [hon]
      split <;> rfl
    · rw [Bool.not_eq_true] at hat
      simp only [hat, Bool.false_eq_true, if_false, List.map_cons, ih]
      split <;> rfl

theorem only_record (b : SimBoard) (c : Controller) (p : PortIndex) (x : Exchange) (buffer : Buffer) :
    (b.record x buffer).only c p = if x.isOn c p then (b.only c p).record x buffer else b.only c p := by
  unfold record only
  simp only [List.filter_append, List.filter_cons, List.filter_nil]
  split <;> simp

/-- A transaction on another bus is not shown. -/
theorem only_transact (h : b.faults = []) (hx : ¬x.isOn c p = true) (buffer : Buffer) :
    (b.transact x buffer).2.only c p = b.only c p := by
  have hrecord := b.only_record c p x buffer
  rw [if_neg hx] at hrecord
  have hleft := left_transact h x buffer
  generalize (b.transact x buffer).2 = after at hleft
  cases hleft with
  | unmoved => exact hrecord
  | connected segment =>
    have hmuxes := connect_only c p x segment b.muxes
    rw [if_neg hx] at hmuxes
    rw [← hrecord]
    simp only [only, hmuxes]
    rfl
  | @touched i d e hd hon he =>
    have hoff : ¬d.toDevicePlace.isOn c p = true := by
      obtain ⟨hc, hp⟩ := DevicePlace.isOn_iff.mp hon
      rw [DevicePlace.isOn_iff, hc, hp]
      rwa [Exchange.isOn_iff] at hx
    have hdevices : (b.devices.set i e).map (SimDevice.only c p) = b.devices.map (SimDevice.only c p) := by
      rw [List.map_set, SimDevice.only_eq_of_not_isOn hoff he]
      refine KeyedList.set_eq_self ?_
      rw [List.getElem?_map, hd]
      rfl
    rw [← hrecord]
    simp only [only, hdevices]
    rfl

theorem Intact.isVisible_only (h : b.Intact muxes places) (hr : RoutesApart muxes places) {d : SimDevice}
    (hd : d ∈ b.devices) (hon : d.toDevicePlace.isOn c p = true) : (b.only c p).isVisible d = b.isVisible d := by
  unfold isVisible
  cases hroute : d.route with
  | none => rfl
  | some route =>
    obtain ⟨m, hm, hown, hid⟩ := hr.on_own_bus d.toDevicePlace (h.places_eq ▸ List.mem_map_of_mem hd) route hroute
    obtain ⟨rfl, rfl⟩ := DevicePlace.isOn_iff.mp hon
    simp only [only, List.any_map, Function.comp_def, SimMux.descriptor_only]
    rw [Bool.eq_iff_iff, List.any_eq_true, List.any_eq_true]
    -- only the multiplexer of the route can pass, and it is on the bus of the device
    have hsame : ∀ sm ∈ b.muxes, sm.descriptor.id = route.mux → sm.only d.controller d.port = sm := by
      intro sm hsm hsid
      obtain rfl : sm.descriptor = m :=
        List.inj_on_of_nodup_map hr.ids_distinct (h.carries.mem hsm) hm (hsid.trans hid.symm)
      unfold SimMux.only
      rw [if_pos hown]
    constructor
    · rintro ⟨sm, hsm, hpass⟩
      rw [Bool.and_eq_true, beq_iff_eq] at hpass
      rw [hsame sm hsm hpass.1] at hpass
      exact ⟨sm, hsm, by simpa using hpass⟩
    · rintro ⟨sm, hsm, hpass⟩
      rw [Bool.and_eq_true, beq_iff_eq] at hpass
      refine ⟨sm, hsm, ?_⟩
      rw [hsame sm hsm hpass.1]
      simpa using hpass

theorem Intact.answering_only (h : b.Intact muxes places) (hr : RoutesApart muxes places)
    (hx : x.isOn c p = true) : (b.only c p).answering x = b.answering x := by
  obtain ⟨rfl, rfl⟩ := Exchange.isOn_iff.mp hx
  have hon : ∀ d : SimDevice, d.isAt x.controller x.port x.address = true →
      d.toDevicePlace.isOn x.controller x.port = true := fun d hat => by
    rw [SimDevice.isAt_eq, Bool.and_eq_true] at hat
    exact hat.1
  refine KeyedList.filter_zipIdx_map (f := SimDevice.only x.controller x.port)
    (p := fun d => d.isAt x.controller x.port x.address && (b.only x.controller x.port).isVisible d)
    (q := fun d => d.isAt x.controller x.port x.address && b.isVisible d) 0 (fun d hd => ?_) fun d hd hpass => ?_
  · have hplace : (d.only x.controller x.port).isAt x.controller x.port x.address =
        d.isAt x.controller x.port x.address := by
      simp only [SimDevice.isAt_eq, SimDevice.toDevicePlace_only]
    rw [hplace]
    cases hat : d.isAt x.controller x.port x.address with
    | false => rfl
    | true => rw [SimDevice.only_of_isOn (hon d hat), h.isVisible_only hr hd (hon d hat)]
  · rw [Bool.and_eq_true] at hpass
    exact SimDevice.only_of_isOn (hon d hpass.1)

theorem transactMux_only (hx : x.isOn c p = true) (b : SimBoard) (m : SimMux) (buffer : Buffer) :
    (b.only c p).transactMux m x buffer = ((b.transactMux m x buffer).1, (b.transactMux m x buffer).2.only c p) := by
  unfold transactMux
  simp only
  split
  · rfl
  · cases m.descriptor.part.decode x.write with
    | none => rfl
    | some segment =>
      have hmuxes := connect_only c p x segment b.muxes
      rw [if_pos hx] at hmuxes
      simp only [only, hmuxes]

theorem Intact.transactDevice_only (h : b.Intact muxes places) (hr : RoutesApart muxes places)
    (hx : x.isOn c p = true) (buffer : Buffer) :
    (b.only c p).transactDevice x buffer =
      ((b.transactDevice x buffer).1, (b.transactDevice x buffer).2.only c p) := by
  unfold transactDevice
  rw [h.answering_only hr hx]
  split
  · rfl
  · rename_i d i hans
    have hmem : (d, i) ∈ b.answering x := by
      rw [hans]
      exact List.mem_singleton_self _
    have hon : d.toDevicePlace.isOn c p = true := by
      have hat := (List.mem_filter.mp hmem).2
      simp only [Bool.and_eq_true, SimDevice.isAt_eq] at hat
      obtain ⟨rfl, rfl⟩ := Exchange.isOn_iff.mp hx
      exact hat.1.1
    have hset : ∀ e : SimDevice, e.toDevicePlace = d.toDevicePlace →
        ({ b.only c p with devices := (b.only c p).devices.set i e } : SimBoard) =
          SimBoard.only c p { b with devices := b.devices.set i e } := fun e he => by
      simp only [only, List.map_set, SimDevice.only_of_isOn (he ▸ hon)]
    cases x.op with
    | writeRead => exact Prod.ext rfl (hset _ (d.toDevicePlace_write x.write))
    | writeReadBlock => exact Prod.ext rfl (hset _ (d.toDevicePlace_write x.write))
  · rfl

/-- A transaction on a bus does the same to what is shown of the bus. -/
theorem Intact.transact_only (h : b.Intact muxes places) (hr : RoutesApart muxes places) (hx : x.isOn c p = true)
    (buffer : Buffer) :
    (b.only c p).transact x buffer = ((b.transact x buffer).1, (b.transact x buffer).2.only c p) := by
  have hrecord := b.only_record c p x buffer
  rw [if_pos hx] at hrecord
  have hfind : (b.only c p).muxes.find? (·.isAt x.controller x.port x.address) =
      b.muxes.find? (·.isAt x.controller x.port x.address) := by
    obtain ⟨rfl, rfl⟩ := Exchange.isOn_iff.mp hx
    simp only [only, List.find?_map, Function.comp_def, SimMux.isAt_only]
    cases hfound : b.muxes.find? (·.isAt x.controller x.port x.address) with
    | none => rfl
    | some m =>
      have hat : m.isAt x.controller x.port x.address = true :=
        List.find?_some (p := fun k : SimMux => k.isAt x.controller x.port x.address) hfound
      exact congrArg some (SimMux.only_of_isAt hat)
  rw [transact_of_no_faults h.no_faults, transact_of_no_faults (b := b.only c p) h.no_faults, ← hrecord, hfind]
  cases b.muxes.find? (·.isAt x.controller x.port x.address) with
  | some m => exact transactMux_only hx (b.record x buffer) m buffer
  | none =>
    have hintact : (b.record x buffer).Intact muxes places := ⟨h.carries, h.places_eq, h.no_faults⟩
    exact hintact.transactDevice_only hr hx buffer

end SimBoard

/-! ## One bus of a server -/

/-- The bus, with its belief if it is on the given controller and port. -/
def Bus.only (c : Controller) (p : PortIndex) (b : Bus) : Bus :=
  if b.isOn c p then b else ⟨b.controller, b.port, .new []⟩

/-- What one bus sees of a server. -/
def Server.only (c : Controller) (p : PortIndex) (s : Server SimBoard) : Server SimBoard :=
  s.view (SimBoard.only c p) (Bus.only c p)

theorem Bus.showsBuses_only (c : Controller) (p : PortIndex) : Server.ShowsBuses (Bus.only c p) c p where
  place b := by
    unfold only
    split <;> exact ⟨rfl, rfl⟩
  here b hb := by
    unfold only
    rw [if_pos hb]

/-- Putting another bus back is not shown. -/
theorem Bus.only_putBack {c : Controller} {p : PortIndex} {bus : Bus} (h : ¬bus.isOn c p = true) (bs : List Bus) :
    (bus.putBack bs).map (Bus.only c p) = bs.map (Bus.only c p) := by
  induction bs with
  | nil => rfl
  | cons b bs ih =>
    unfold putBack
    split
    · rename_i hplace
      obtain ⟨hc, hp⟩ := isOn_iff.mp hplace
      have hb : ¬b.isOn c p = true := by
        rwa [isOn_iff, hc, hp, ← isOn_iff]
      simp only [List.map_cons, only, if_neg h, if_neg hb, hc, hp]
    · rw [List.map_cons, List.map_cons, ih]

namespace Server

variable {muxes : List MuxDescriptor} {places : List DevicePlace} {s : Server SimBoard} {r : Request}
  {c : Controller} {p : PortIndex}

theorem shows_only (hr : RoutesApart muxes places) (c : Controller) (p : PortIndex) :
    Shows (SimBoard.Intact muxes places) (SimBoard.only c p) c p where
  kept _ x buffer _ _ h := h.transact x buffer
  transact _ _ buffer hc hp h := h.transact_only hr (Exchange.isOn_iff.mpr ⟨hc, hp⟩) buffer

/-- A request keeps the layout of the board. -/
theorem intact_handle (h : s.wire.Intact muxes places) (r : Request) (buffer : Buffer) :
    (s.handle r buffer).server.wire.Intact muxes places :=
  (handle_keeps (Q := fun _ => True) (fun _ x buffer _ _ h => h.transact x buffer) (fun _ _ _ _ => trivial) h trivial
    buffer).wire

/-- A request on a bus does the same to what is shown of the bus. -/
theorem handle_only (h : s.wire.Intact muxes places) (hr : RoutesApart muxes places) (hon : r.isOn c p = true)
    (buffer : Buffer) :
    (s.only c p).handle r buffer =
      ⟨(s.handle r buffer).reply, (s.handle r buffer).server.only c p, (s.handle r buffer).log⟩ := by
  obtain ⟨rfl, rfl⟩ := Exchange.isOn_iff.mp hon
  exact handle_view (shows_only hr _ _) (Bus.showsBuses_only _ _) h buffer

/-- A request on another bus is not shown. -/
theorem only_handle (h : s.wire.Intact muxes places) (hoff : ¬r.isOn c p = true) (buffer : Buffer) :
    (s.handle r buffer).server.only c p = s.only c p := by
  have hwire : KeptOn (fun wire : SimBoard => wire.Intact muxes places ∧ wire.only c p = s.wire.only c p)
      r.controller r.port := by
    rintro wire x buffer hc hp ⟨hintact, hsame⟩
    refine ⟨hintact.transact x buffer, ?_⟩
    have hx : ¬x.isOn c p = true := by
      rw [Exchange.isOn_iff] at hoff ⊢
      rwa [hc, hp]
    exact (SimBoard.only_transact hintact.no_faults hx buffer).trans hsame
  have hbuses : ∀ (b : Bus) bs, b.isOn r.controller r.port = true →
      bs.map (Bus.only c p) = s.buses.map (Bus.only c p) →
      (b.putBack bs).map (Bus.only c p) = s.buses.map (Bus.only c p) := by
    intro b bs hb hsame
    obtain ⟨hc, hp⟩ := Bus.isOn_iff.mp hb
    have hoff' : ¬b.isOn c p = true := by
      rwa [Bus.isOn_iff, hc, hp, ← Exchange.isOn_iff]
    exact (Bus.only_putBack hoff' bs).trans hsame
  obtain ⟨⟨-, hboard⟩, hlist, hcontrollers, hmuxes⟩ := handle_keeps hwire hbuses ⟨h, rfl⟩ rfl buffer
  unfold only view
  rw [hboard, hlist, hcontrollers, hmuxes]

end Server

end I2cTopology
