import I2cTopology.Bus.Server
import I2cTopology.Bus.Simulation
import I2cTopology.Proofs.KeyedList
import I2cTopology.Proofs.Routing.Latches

/-!
# Control writes on a simulated board

The multiplexers of a simulated board are latches in the sense of `Latches`: what a server sends to select or deselect
is decoded at the multiplexer that it names and moves the latch of that one only (`sendControl_cases`,
`actsOnLatches_sendControl`). A write that meets an injected fault spends the fault and changes nothing else
(`SimBoard.Spends`).
-/

namespace I2cTopology

/-! ## Control bytes -/

namespace MuxPart

theorem lowBitFirst_oneHot : ∀ c < 8, lowBitFirst (1 <<< UInt8.ofNat c) = [c] := by decide

theorem highBitFirst_oneHot : ∀ c < 8, highBitFirst (0x80 >>> UInt8.ofNat c) = [c] := by decide

/-- A part has a selecting write for each of its segments, and reads it back as that segment. -/
theorem exists_select?_of_le {part : MuxPart} {segment : SegmentId} (h1 : 1 ≤ segment.number)
    (hn : segment.number ≤ part.maxSegments) :
    ∃ bytes, part.select? segment = some bytes ∧ bytes ≠ [] ∧ part.decode bytes = some (some segment) := by
  obtain ⟨n⟩ := segment
  have hmax : part.maxSegments.toNat ≤ 8 := by cases part <;> decide
  have h1' : 1 ≤ n.toNat := UInt8.le_iff_toNat_le.mp h1
  have hn' : n.toNat ≤ part.maxSegments.toNat := UInt8.le_iff_toNat_le.mp hn
  obtain ⟨c, hc⟩ : ∃ c, n.toNat = c + 1 := ⟨n.toNat - 1, by omega⟩
  have hsucc : UInt8.ofNat c + 1 = n := UInt8.toNat.inj (by
    rw [UInt8.toNat_add, UInt8.toNat_ofNat', UInt8.toNat_one]
    omega)
  have hchannel : (SegmentId.mk n).channel? = some (UInt8.ofNat c) := by
    have h0 : n ≠ 0 := fun e => by rw [e] at hc; simp at hc
    have hsub : n - 1 = UInt8.ofNat c := by simp [← hsucc]
    simp [SegmentId.channel?, h0, hsub]
  have hlt : UInt8.ofNat c < part.maxSegments := by
    rw [UInt8.lt_iff_toNat_lt, UInt8.toNat_ofNat']
    omega
  simp only [select?, hchannel, if_pos hlt]
  -- the byte is one-hot, from the low end for three of the parts and from the high end for the fourth
  cases part with
  | ltc4306 =>
    refine ⟨_, rfl, by simp, ?_⟩
    simp [decode, highBitFirst_oneHot c (by omega), connection, hsucc]
  | _ =>
    refine ⟨_, rfl, by simp, ?_⟩
    simp [decode, lowBitFirst_oneHot c (by omega), connection, hsucc]

theorem decode_deselect (part : MuxPart) : part.deselect ≠ [] ∧ part.decode part.deselect = some none := by
  cases part <;> decide

end MuxPart

/-! ## Well-wired multiplexers -/

/-- Multiplexers have ids of their own, addresses of their own on their bus, and no more segments than their part. -/
structure WellWired (muxes : List MuxDescriptor) : Prop where
  ids : (muxes.map (·.id)).Nodup
  addresses : (muxes.map fun m => (m.controller, m.port, m.address)).Nodup
  segments : ∀ m ∈ muxes, m.segments ≤ m.part.maxSegments

/-- Multiplexers have ids of their own and no more segments than their part, so each of their segments can be selected
by the id. -/
structure Selectable (muxes : List MuxDescriptor) : Prop where
  ids : (muxes.map (·.id)).Nodup
  segments : ∀ m ∈ muxes, m.segments ≤ m.part.maxSegments

theorem WellWired.selectable {muxes : List MuxDescriptor} (h : WellWired muxes) : Selectable muxes :=
  ⟨h.ids, h.segments⟩

/-- The ids of the multiplexers on a bus. -/
def muxIdsOn (muxes : List MuxDescriptor) (c : Controller) (p : PortIndex) : List MuxId :=
  (muxes.filter (·.isOn c p)).map (·.id)

theorem MuxDescriptor.isOn_iff {m : MuxDescriptor} {c : Controller} {p : PortIndex} :
    m.isOn c p = true ↔ m.controller = c ∧ m.port = p := by
  simp [isOn]

theorem MuxDescriptor.hasSegment_iff {m : MuxDescriptor} {s : SegmentId} :
    m.hasSegment s = true ↔ 1 ≤ s.number ∧ s.number ≤ m.segments := by
  simp [hasSegment]

theorem mem_muxIdsOn {muxes : List MuxDescriptor} {c : Controller} {p : PortIndex} {id : MuxId} :
    id ∈ muxIdsOn muxes c p ↔ ∃ m ∈ muxes, m.isOn c p = true ∧ m.id = id := by
  simp [muxIdsOn, and_assoc]

/-- A route leads over a wired segment of a multiplexer on the bus. -/
def Route.WiredOn (muxes : List MuxDescriptor) (c : Controller) (p : PortIndex) (route : Route) : Prop :=
  ∃ m ∈ muxes, m.isOn c p = true ∧ m.id = route.mux ∧ m.hasSegment route.segment = true

theorem Route.WiredOn.mux_mem {muxes : List MuxDescriptor} {c : Controller} {p : PortIndex} {route : Route}
    (h : route.WiredOn muxes c p) : route.mux ∈ muxIdsOn muxes c p := by
  obtain ⟨m, hm, hon, hid, -⟩ := h
  exact mem_muxIdsOn.mpr ⟨m, hm, hon, hid⟩

namespace Selectable

variable {muxes : List MuxDescriptor} {m k : MuxDescriptor}

theorem eq_of_id (h : Selectable muxes) (hm : m ∈ muxes) (hk : k ∈ muxes) (e : m.id = k.id) : m = k :=
  List.inj_on_of_nodup_map h.ids hm hk e

theorem find?_id (h : Selectable muxes) (hm : m ∈ muxes) : muxes.find? (·.id == m.id) = some m :=
  (KeyedList.find?_eq_some_iff_of_nodup (·.id) (by simp) h.ids).mpr ⟨hm, rfl⟩

end Selectable

namespace WellWired

variable {muxes : List MuxDescriptor}

/-- The buses of a board share no multiplexer. -/
theorem bus_eq (h : WellWired muxes) {id : MuxId} {c c' : Controller} {p p' : PortIndex}
    (h1 : id ∈ muxIdsOn muxes c p) (h2 : id ∈ muxIdsOn muxes c' p') : c = c' ∧ p = p' := by
  obtain ⟨m, hm, hon, rfl⟩ := mem_muxIdsOn.mp h1
  obtain ⟨k, hk, hon', e⟩ := mem_muxIdsOn.mp h2
  obtain rfl := h.selectable.eq_of_id hk hm e
  obtain ⟨rfl, rfl⟩ := MuxDescriptor.isOn_iff.mp hon
  exact MuxDescriptor.isOn_iff.mp hon'

end WellWired

/-! ## Latches of a simulated board -/

namespace SimBoard

variable {muxes : List MuxDescriptor} {b : SimBoard}

/-- The board carries exactly the given multiplexers. -/
def Carries (b : SimBoard) (muxes : List MuxDescriptor) : Prop := b.muxes.map (·.descriptor) = muxes

theorem Carries.of_muxes_eq {b' : SimBoard} (hb : b.Carries muxes) (h : b'.muxes = b.muxes) : b'.Carries muxes := by
  unfold Carries
  rw [h]
  exact hb

theorem selected_of_muxes_eq {b' : SimBoard} (h : b'.muxes = b.muxes) : b'.selected = b.selected := by
  unfold selected
  rw [h]

/-- A transaction on `b` that met an injected fault has left `b'`: the fault is spent and nothing else has changed. -/
structure Spends (b : SimBoard) (fault : BusFault) (b' : SimBoard) : Prop where
  muxes_eq : b'.muxes = b.muxes
  devices_eq : b'.devices = b.devices
  faults_perm : ∃ address, b.faults.Perm ((address, fault) :: b'.faults)

theorem transact_of_fault {x : Exchange} {entry : UInt8 × BusFault} (buffer : Buffer)
    (h : b.faults.find? (·.1 == x.address) = some entry) :
    (b.transact x buffer).1 = ⟨.error entry.2, buffer⟩ ∧ b.Spends entry.2 (b.transact x buffer).2 := by
  simp only [transact, h]
  exact ⟨trivial, rfl, rfl, entry.1, KeyedList.perm_cons_eraseP_of_find? h⟩

theorem Carries.nodup_ids (hb : b.Carries muxes) (hw : WellWired muxes) :
    (b.muxes.map (·.descriptor.id)).Nodup := by
  have h := hw.ids
  rw [← hb, List.map_map] at h
  exact h

theorem Carries.mem (hb : b.Carries muxes) {sm : SimMux} (h : sm ∈ b.muxes) : sm.descriptor ∈ muxes :=
  hb ▸ List.mem_map_of_mem h

theorem Carries.exists_mem (hb : b.Carries muxes) {m : MuxDescriptor} (h : m ∈ muxes) :
    ∃ sm ∈ b.muxes, sm.descriptor = m :=
  List.mem_map.mp (hb ▸ h)

/-- The multiplexer that answers at an address of a bus is the one that was put there. -/
theorem Carries.find?_isAt (hb : b.Carries muxes) (hw : WellWired muxes) {sm : SimMux} (hsm : sm ∈ b.muxes) :
    b.muxes.find? (·.isAt sm.descriptor.controller sm.descriptor.port sm.descriptor.address) = some sm := by
  have hn : (b.muxes.map fun m => (m.descriptor.controller, m.descriptor.port, m.descriptor.address)).Nodup := by
    have h := hw.addresses
    rw [← hb, List.map_map] at h
    exact h
  refine (KeyedList.find?_eq_some_iff_of_nodup (fun m : SimMux =>
    (m.descriptor.controller, m.descriptor.port, m.descriptor.address)) (fun m => ?_) hn).mpr ⟨hsm, rfl⟩
  simp [SimMux.isAt, MuxDescriptor.isOn, and_assoc]

theorem Carries.selected_eq (hb : b.Carries muxes) (hw : WellWired muxes) {sm : SimMux} (hsm : sm ∈ b.muxes) :
    b.selected sm.descriptor.id = sm.selected := by
  have h : b.muxes.find? (·.descriptor.id == sm.descriptor.id) = some sm :=
    (KeyedList.find?_eq_some_iff_of_nodup (·.descriptor.id) (by simp) (hb.nodup_ids hw)).mpr ⟨hsm, rfl⟩
  simp [selected, h]

/-- A device is within reach when its route, if it has one, is what the multiplexer of that route connects. -/
theorem Carries.isVisible_iff (hb : b.Carries muxes) (hw : WellWired muxes) {d : SimDevice}
    (hd : ∀ route, d.route = some route → ∃ m ∈ muxes, m.id = route.mux) :
    b.isVisible d = true ↔ ∀ route, d.route = some route → b.selected route.mux = some route.segment := by
  cases hr : d.route with
  | none => simp [isVisible, hr]
  | some route =>
    obtain ⟨m, hm, hid⟩ := hd route hr
    obtain ⟨sm, hsm, rfl⟩ := hb.exists_mem hm
    simp only [isVisible, hr, List.any_eq_true, Bool.and_eq_true, beq_iff_eq, Option.some.injEq, forall_eq']
    rw [← hid, hb.selected_eq hw hsm]
    constructor
    · rintro ⟨k, hk, he, hs⟩
      obtain rfl : k = sm := List.inj_on_of_nodup_map (hb.nodup_ids hw) hk hsm he
      exact hs
    · exact fun hs => ⟨sm, hsm, rfl, hs⟩

/-! ## Moving a latch -/

/-- A transaction on `b` that carried out a control write has left `b'`: the latch of its multiplexer is moved and
nothing else has changed. -/
structure Connects (b : SimBoard) (w : ControlWrite) (b' : SimBoard) : Prop where
  descriptors_eq : b'.muxes.map (·.descriptor) = b.muxes.map (·.descriptor)
  devices_eq : b'.devices = b.devices
  faults_eq : b'.faults = b.faults
  selected_eq : b'.selected = w.apply b.selected

theorem map_descriptor_connect (x : Exchange) (segment : Option SegmentId) (ms : List SimMux) :
    (connect x segment ms).map (·.descriptor) = ms.map (·.descriptor) := by
  induction ms with
  | nil => rfl
  | cons m ms ih =>
    unfold connect
    split
    · rfl
    · rw [List.map_cons, List.map_cons, ih]

/-- What the multiplexers connect after the latch at an address has been moved. -/
theorem find?_connect {x : Exchange} {sm : SimMux} (segment : Option SegmentId) (id : MuxId) {ms : List SimMux}
    (hn : (ms.map (·.descriptor.id)).Nodup) (h : ms.find? (·.isAt x.controller x.port x.address) = some sm) :
    (connect x segment ms).find? (·.descriptor.id == id) =
      if id = sm.descriptor.id then some { sm with selected := segment } else ms.find? (·.descriptor.id == id) := by
  induction ms with
  | nil => cases h
  | cons m ms ih =>
    simp only [List.map_cons, List.nodup_cons] at hn
    unfold connect
    split
    · rename_i hat
      rw [List.find?_cons_of_pos (p := fun k : SimMux => k.isAt x.controller x.port x.address) hat,
        Option.some.injEq] at h
      subst h
      by_cases hid : id = m.descriptor.id
      · simp [hid]
      · simp [hid, Ne.symm hid]
    · rename_i hat
      rw [List.find?_cons_of_neg (p := fun k : SimMux => k.isAt x.controller x.port x.address) hat] at h
      rw [List.find?_cons, List.find?_cons, ih hn.2 h]
      by_cases hid : m.descriptor.id = id
      · have hne : id ≠ sm.descriptor.id := fun e =>
          hn.1 (List.mem_map.mpr ⟨sm, List.mem_of_find?_eq_some h, (hid.trans e).symm⟩)
        simp [hid, hne]
      · simp only [beq_eq_false_iff_ne.mpr hid]

/-- A control write to a multiplexer of the board either meets an injected fault or moves the latch. -/
theorem Carries.transact_control (hb : b.Carries muxes) (hw : WellWired muxes) {w : ControlWrite}
    {m : MuxDescriptor} (hm : m ∈ muxes) (hid : m.id = w.mux) {bytes : List UInt8} (hne : bytes ≠ [])
    (hdecode : m.part.decode bytes = some w.connects) :
    let after := b.transact ⟨m.controller, m.port, m.address, .writeRead, bytes⟩ []
    (∃ fault, after.1.result = .error fault ∧ b.Spends fault after.2) ∨
      (∃ n, after.1.result = .ok n) ∧ b.Connects w after.2 := by
  intro after
  cases hf : b.faults.find? (·.1 == m.address) with
  | some entry =>
    obtain ⟨hreply, hspends⟩ := transact_of_fault (x := ⟨m.controller, m.port, m.address, .writeRead, bytes⟩) [] hf
    exact Or.inl ⟨entry.2, by rw [hreply], hspends⟩
  | none =>
    obtain ⟨sm, hsm, rfl⟩ := hb.exists_mem hm
    have hfind := hb.find?_isAt hw hsm
    have hempty : bytes.isEmpty = false := by simpa using hne
    refine Or.inr ?_
    simp only [after, transact, hf, hfind, transactMux, hempty, hdecode, Bool.false_eq_true, if_false]
    refine ⟨⟨_, rfl⟩, map_descriptor_connect _ _ _, rfl, rfl, ?_⟩
    funext id
    have hmoved := find?_connect (x := ⟨sm.descriptor.controller, sm.descriptor.port, sm.descriptor.address,
      .writeRead, bytes⟩) w.connects id (hb.nodup_ids hw) hfind
    simp only [selected, hmoved, ControlWrite.apply, ← hid]
    split <;> rfl

end SimBoard

/-! ## Control writes of a server -/

/-- A control write is addressed to a multiplexer of the bus, and selects one of its segments if it selects. -/
def ControlWrite.FitsBus (muxes : List MuxDescriptor) (c : Controller) (p : PortIndex) (w : ControlWrite) : Prop :=
  ∃ m ∈ muxes, m.isOn c p = true ∧ m.id = w.mux ∧ ∀ segment, w.connects = some segment → m.hasSegment segment = true

namespace Server

variable {muxes : List MuxDescriptor} {r : Request} {w : ControlWrite} {b : SimBoard}

/-- The writes that make a route on a bus live fit the bus, as long as the belief names its own multiplexers only. -/
theorem fitsBus_of_mem_plan (hs : Selectable muxes) {c : Controller} {p : PortIndex} {t : Tracker} {target : Route}
    (hmuxes : t.muxes = muxIdsOn muxes c p) (hn : t.state.Names t.muxes) (ht : target.WiredOn muxes c p) :
    ∀ w ∈ t.plan target, w.FitsBus muxes c p := by
  intro w hw
  have hmem : w.mux ∈ muxIdsOn muxes c p := by
    rw [← hmuxes]
    exact Tracker.mux_mem_of_mem_plan hn (hmuxes ▸ ht.mux_mem) hw
  obtain ⟨m, hm, hon, hid⟩ := mem_muxIdsOn.mp hmem
  refine ⟨m, hm, hon, hid, fun segment hsegment => ?_⟩
  cases w with
  | deselect _ => cases hsegment
  | select route =>
    obtain rfl := Tracker.select_of_mem_plan hw
    obtain ⟨k, hk, -, hkid, hks⟩ := ht
    obtain rfl := hs.eq_of_id hm hk (hid.trans hkid.symm)
    obtain rfl := Option.some.inj hsegment
    exact hks

/-- The bytes of a control write that fits are read back as what it connects. -/
theorem exists_control? (hs : Selectable muxes) {c : Controller} {p : PortIndex} (h : w.FitsBus muxes c p) :
    ∃ m ∈ muxes, m.isOn c p = true ∧ m.id = w.mux ∧
      ∃ bytes, control? muxes w = .ok (m.address, bytes) ∧ bytes ≠ [] ∧ m.part.decode bytes = some w.connects := by
  obtain ⟨m, hm, hon, hid, hsegment⟩ := h
  refine ⟨m, hm, hon, hid, ?_⟩
  have hfind := hs.find?_id hm
  cases w with
  | deselect mux =>
    simp only [ControlWrite.mux] at hid
    subst hid
    exact ⟨_, by simp [control?, hfind], m.part.decode_deselect⟩
  | select route =>
    simp only [ControlWrite.mux] at hid
    obtain ⟨h1, hn⟩ := MuxDescriptor.hasSegment_iff.mp (hsegment route.segment rfl)
    obtain ⟨bytes, hselect, hbytes⟩ := MuxPart.exists_select?_of_le h1 (UInt8.le_trans hn (hs.segments m hm))
    exact ⟨bytes, by simp [control?, ← hid, hfind, hselect], hbytes⟩

/-- A control write that fits either meets an injected fault, which counts against the route being made, or moves the
latch that it is addressed to. -/
theorem sendControl_cases (target : Route) (hw : WellWired muxes) (hb : b.Carries muxes)
    (h : w.FitsBus muxes r.controller r.port) :
    let after := sendControl muxes r target b w
    (∃ fault, after.1 = .error (.routingFailure target fault) ∧ b.Spends fault after.2) ∨
      after.1 = .ok () ∧ b.Connects w after.2 := by
  intro after
  obtain ⟨m, hm, hon, hid, bytes, hcontrol, hne, hdecode⟩ := exists_control? hw.selectable h
  obtain ⟨hc, hp⟩ := MuxDescriptor.isOn_iff.mp hon
  have hcases := hb.transact_control hw hm hid hne hdecode
  rw [hc, hp] at hcases
  simp only [after, sendControl, hcontrol]
  show _ ∨ _
  rcases hcases with ⟨fault, hr, hs⟩ | ⟨⟨n, hr⟩, hs⟩
  · left
    refine ⟨fault, ?_⟩
    simp only [Wire.transact, hr]
    exact ⟨trivial, hs⟩
  · right
    simp only [Wire.transact, hr]
    exact ⟨trivial, hs⟩

/-- The control writes of a server act on the latches of the board. -/
theorem actsOnLatches_sendControl (r : Request) (target : Route) (hw : WellWired muxes) :
    ActsOnLatches (sendControl muxes r target) (ControlWrite.FitsBus muxes r.controller r.port)
      (SimBoard.Carries · muxes) SimBoard.selected where
  sound_send {b w} hfit hb := by
    rcases sendControl_cases target hw hb hfit with ⟨_, -, hs⟩ | ⟨-, hs⟩
    · exact hb.of_muxes_eq hs.muxes_eq
    · unfold SimBoard.Carries; rw [hs.descriptors_eq]; exact hb
  of_ok {b w u} hfit hb hr := by
    rcases sendControl_cases target hw hb hfit with ⟨_, he, -⟩ | ⟨-, hs⟩
    · rw [he] at hr; cases hr
    · exact hs.selected_eq
  of_error {b w e} hfit hb hr m _ := by
    rcases sendControl_cases target hw hb hfit with ⟨_, -, hs⟩ | ⟨hok, -⟩
    · rw [SimBoard.selected_of_muxes_eq hs.muxes_eq]
    · rw [hok] at hr; cases hr

end Server

end I2cTopology
