import I2cTopology.Proofs.Resolution.Wiring
import Mathlib.Data.List.Forall2

/-!
# Resolved topologies are faithful

What the tables of a resolved document say, in terms of the declarations alone (`Document.DescribedBy`): there is one
row for each controller, port, multiplexer and device, in the order of the document, and each row says what its
declaration says. Rows refer to each other as they should (`Topology.WellFormed`): the slots of a controller are those
of its ports, the rows of a port are those of its multiplexers, ids are rows, and two devices are at one place only if
the later one is an alias. Both hold of whatever resolution comes to (`Document.faithful_of_resolve`).
-/

namespace I2cTopology

/-! ## Tables that refer to each other -/

namespace Topology

/-- The slots of the ports of a controller. -/
def slotsOf (t : Topology) (c : Controller) : List Nat :=
  (List.range t.ports.length).filter fun slot => (t.ports[slot]?).any (·.controller == c)

/-- The rows of the multiplexers on a bus. -/
def muxesOn (t : Topology) (c : Controller) (p : PortIndex) : List Nat :=
  (List.range t.muxes.length).filter fun row => (t.muxes[row]?).any (·.isOn c p)

/-- The tables refer to each other as they should. -/
structure WellFormed (t : Topology) : Prop where
  /-- The slots of a controller are those of its ports, whose indices count them. -/
  slots_eq : ∀ c ∈ t.controllers, c.ports = t.slotsOf c.controller
  index_eq : ∀ c ∈ t.controllers, ∀ k slot, c.ports[k]? = some slot →
    ∃ p : BoardPort, t.ports[slot]? = some p ∧ p.controller = c.controller ∧ p.index.number.toNat = k
  /-- Slots are given out without a gap. -/
  slots_dense : t.controllers.flatMap (·.ports) = List.range t.ports.length
  rows_eq : ∀ p ∈ t.ports, p.muxes = t.muxesOn p.controller p.index
  id_eq : ∀ (row : Nat) (m : MuxDescriptor), t.muxes[row]? = some m → m.id.number.toNat = row
  mux_address : ∀ m ∈ t.muxes, isAssignable m.address = true
  device_address : ∀ b ∈ t.devices, isAssignable b.place.address = true
  off_muxes : ∀ b ∈ t.devices, b.place.OffMuxes t.muxes
  places : t.devices.Pairwise fun b k => b.place = k.place → k.isAlias = true

end Topology

/-! ## Rows and what they describe -/

/-- A pin set on a port is described: bit `b` of the mask is set exactly when `b` is one of its pins. -/
structure PinSetDecl.DescribedBy (p : PortSite) (set : PinSetDecl) (row : PinDescriptor) : Prop where
  controller_eq : row.controller = p.controller
  port_eq : row.port.number.toNat = p.position
  gpioPort_eq : row.gpioPort = set.gpioPort.getD p.key
  bit_iff : ∀ b : Nat, row.pins.getLsbD b = true ↔ ∃ pin ∈ set.pins, pin.toNat = b
  function_eq : row.function = set.function

/-- A multiplexer on a port is described. -/
structure MuxDecl.DescribedBy (site : PortSite × MuxDecl) (row : MuxDescriptor) : Prop where
  controller_eq : row.controller = site.1.controller
  port_eq : row.port.number.toNat = site.1.position
  part_eq : row.part = site.2.part
  address_eq : row.address = site.2.address
  segments_eq : row.segments = site.2.segments.getD site.2.part.maxSegments
  nreset : Option.Rel (PinSetDecl.DescribedBy site.1) site.2.nreset row.nreset

/-- A port is described. -/
structure PortSite.DescribedBy (p : PortSite) (row : BoardPort) : Prop where
  controller_eq : row.controller = p.controller
  index_eq : row.index.number.toNat = p.position
  key_eq : row.key = p.key
  name_eq : row.name = p.decl.name
  description_eq : row.description = p.decl.description
  pins : List.Forall₂ (PinSetDecl.DescribedBy p) p.decl.pins row.pins

/-- A controller is described. -/
structure ControllerDecl.DescribedBy (c : ControllerDecl) (row : BoardController) : Prop where
  controller_eq : row.controller = ⟨c.controller⟩
  mode_eq : row.mode = if c.target then .target else .initiator
  length_ports : row.ports.length = c.ports.size

/-- The way to a device from a port: none, or a segment of the multiplexer on that port that the declared number
counts, from one. -/
inductive DeviceDecl.RoutedBy (t : Topology) (p : BoardPort) (d : DeviceDecl) : Option Route → Prop
  | direct : d.mux = none → d.segment = none → RoutedBy t p d none
  | behind {number segment : UInt8} {row : Nat} {m : MuxDescriptor} : d.mux = some number → d.segment = some segment →
    1 ≤ number → p.muxes[number.toNat - 1]? = some row → t.muxes[row]? = some m → 1 ≤ segment → segment ≤ m.segments →
    RoutedBy t p d (some ⟨m.id, ⟨segment⟩⟩)

/-- A device is on a port that answers to what it says of its bus. -/
structure DeviceDecl.OnPort (t : Topology) (d : DeviceDecl) (b : BoardDevice) (p : BoardPort) : Prop where
  port_eq : t.ports[b.portSlot]? = some p
  controller_eq : b.place.controller = p.controller
  index_eq : b.place.port = p.index
  bus_eq : b.bus = p.name
  of_bus : ∀ name, d.bus = some name → p.name = some name
  of_controller : ∀ number, d.controller = some number → p.controller = ⟨number⟩
  of_key : ∀ key, d.port = some key → p.key = key
  routed : d.RoutedBy t p b.place.route

/-- A device is described. -/
structure DeviceDecl.DescribedBy (t : Topology) (d : DeviceDecl) (b : BoardDevice) : Prop where
  kind_eq : b.kind = d.device
  names_eq : b.names = d.names
  description_eq : b.description = d.description
  address_eq : b.place.address = d.address
  refdes_eq : b.refdes = d.refdes
  removable_eq : b.removable = d.removable
  isAlias_eq : b.isAlias = d.isAlias
  power_eq : b.power = d.power.map fun w => ⟨w.rails, w.phases, w.pmbus, w.multiphase⟩
  port : ∃ p, d.OnPort t b p

/-- The multiplexers of all controllers with their ports, in order. -/
def muxSites (ps : List PortSite) : List (PortSite × MuxDecl) := ps.flatMap fun p => p.decl.muxes.map (p, ·)

/-- The tables have one row for each declaration of a document, in order, that says what the declaration says. -/
structure Document.DescribedBy (d : Document) (t : Topology) : Prop where
  controllers : List.Forall₂ ControllerDecl.DescribedBy d.controllers t.controllers
  ports : List.Forall₂ PortSite.DescribedBy (portSites d.controllers) t.ports
  muxes : List.Forall₂ MuxDecl.DescribedBy (muxSites (portSites d.controllers)) t.muxes
  devices : List.Forall₂ (DeviceDecl.DescribedBy t) d.devices t.devices

/-! ## Pins -/

/-- A pin sets its own bit. -/
theorem getLsbD_or_one_shiftLeft {n : Nat} (hn : n < 16) (mask : BitVec 16) (b : Nat) :
    (mask ||| 1#16 <<< n).getLsbD b = true ↔ mask.getLsbD b = true ∨ n = b := by
  simp only [BitVec.getLsbD_or, BitVec.getLsbD_shiftLeft, BitVec.getLsbD_one, Bool.or_eq_true, Bool.and_eq_true,
    Bool.not_eq_true', decide_eq_true_eq, decide_eq_false_iff_not]
  refine or_congr_right ?_
  omega

theorem getLsbD_foldl_pins {pins : List UInt8} (h : ∀ pin ∈ pins, pin < 16) (mask : BitVec 16) (b : Nat) :
    (pins.foldl (fun mask pin => mask ||| 1#16 <<< pin.toNat) mask).getLsbD b = true ↔
      mask.getLsbD b = true ∨ ∃ pin ∈ pins, pin.toNat = b := by
  induction pins generalizing mask with
  | nil => simp
  | cons pin pins ih =>
    rw [List.forall_mem_cons] at h
    have hpin : pin.toNat < 16 := UInt8.lt_iff_toNat_lt.mp h.1
    rw [List.foldl_cons, ih h.2, getLsbD_or_one_shiftLeft hpin, or_assoc, List.exists_mem_cons_iff]

/-- The position of a port on its controller is its index. -/
theorem PortSite.toNat_index {p : PortSite} (h : p.position < 256) : p.ref.index.number.toNat = p.position := by
  rw [ref, UInt8.toNat_ofNat', Nat.mod_eq_of_lt h]

theorem PinSetDecl.describedBy_descriptor {p : PortSite} (hp : p.position < 256) {set : PinSetDecl} (h : set.Fits) :
    set.DescribedBy p (set.descriptor p.ref) where
  controller_eq := rfl
  port_eq := p.toNat_index hp
  gpioPort_eq := rfl
  bit_iff b := by
    rw [descriptor, getLsbD_foldl_pins h]
    simp
  function_eq := rfl

/-! ## Rows of declarations -/

theorem MuxDecl.describedBy_descriptor {p : PortSite} (hp : p.position < 256) {m : MuxDecl} (h : m.Fits) (row : Nat) :
    MuxDecl.DescribedBy (p, m) (m.descriptor p.ref row) where
  controller_eq := rfl
  port_eq := p.toNat_index hp
  part_eq := rfl
  address_eq := rfl
  segments_eq := rfl
  nreset := by
    have hreset := h.nreset
    show Option.Rel (PinSetDecl.DescribedBy p) m.nreset (m.nreset.map (·.descriptor p.ref))
    cases hset : m.nreset with
    | none => exact .none
    | some set => exact .some (PinSetDecl.describedBy_descriptor hp (hreset set hset))

theorem PortSite.describedBy_row {p : PortSite} (hp : p.position < 256) (h : p.decl.Fits) (start : Nat) :
    p.DescribedBy (p.row start) where
  controller_eq := rfl
  index_eq := p.toNat_index hp
  key_eq := rfl
  name_eq := rfl
  description_eq := rfl
  pins := by
    rw [row, List.forall₂_map_right_iff, List.forall₂_same]
    exact fun set hset => PinSetDecl.describedBy_descriptor hp (h.pins set hset)

theorem ControllerDecl.describedBy_row (c : ControllerDecl) (start : Nat) : c.DescribedBy (c.row start) where
  controller_eq := rfl
  mode_eq := rfl
  length_ports := List.length_range'

theorem forall₂_controllerRows (start : Nat) (cs : List ControllerDecl) :
    List.Forall₂ ControllerDecl.DescribedBy cs (controllerRows start cs) := by
  induction cs generalizing start with
  | nil => exact .nil
  | cons c cs ih => exact .cons (c.describedBy_row start) (ih _)

theorem forall₂_portRows {ps : List PortSite} (h : ∀ p ∈ ps, p.position < 256 ∧ p.decl.Fits) (start : Nat) :
    List.Forall₂ PortSite.DescribedBy ps (portRows start ps) := by
  induction ps generalizing start with
  | nil => exact .nil
  | cons p ps ih =>
    rw [List.forall_mem_cons] at h
    exact .cons (p.describedBy_row h.1.1 h.1.2 start) (ih h.2 _)

theorem MuxDecl.forall₂_rows {p : PortSite} (hp : p.position < 256) {ms : List MuxDecl} (h : ∀ m ∈ ms, m.Fits)
    (start : Nat) : List.Forall₂ MuxDecl.DescribedBy (ms.map (p, ·)) (rows p.ref start ms) := by
  induction ms generalizing start with
  | nil => exact .nil
  | cons m ms ih =>
    rw [List.forall_mem_cons] at h
    exact .cons (describedBy_descriptor hp h.1 start) (ih h.2 _)

theorem forall₂_muxRows {ps : List PortSite} (h : ∀ p ∈ ps, p.position < 256 ∧ p.decl.Fits) (start : Nat) :
    List.Forall₂ MuxDecl.DescribedBy (muxSites ps) (muxRows start ps) := by
  induction ps generalizing start with
  | nil => exact .nil
  | cons p ps ih =>
    rw [List.forall_mem_cons] at h
    exact List.rel_append (MuxDecl.forall₂_rows h.1.1 h.1.2.muxes start) (ih h.2 _)

/-! ## Rows that belong together -/

/-- The numbers below a bound that lie in a range are those of the range. -/
theorem filter_range_eq_range' {n start count : Nat} {p : Nat → Bool} (hn : start + count ≤ n)
    (h : ∀ i < n, p i = true ↔ i ∈ List.range' start count) : (List.range n).filter p = List.range' start count := by
  have hsplit : List.range n = List.range' 0 start ++ List.range' start count ++ List.range' (start + count)
      (n - (start + count)) := by
    have hleft : List.range' 0 start ++ List.range' start count = List.range' 0 (start + count) := by
      simpa using List.range'_append_1 (s := 0) (m := start) (n := count)
    have hall : List.range' 0 (start + count) ++ List.range' (start + count) (n - (start + count)) =
        List.range' 0 n := by
      simpa [Nat.add_sub_cancel' hn] using
        List.range'_append_1 (s := 0) (m := start + count) (n := n - (start + count))
    rw [hleft, hall, List.range_eq_range']
  have hbefore : (List.range' 0 start).filter p = [] := by
    refine List.filter_eq_nil_iff.mpr fun i hi => ?_
    rw [List.mem_range'_1] at hi
    rw [h i (by omega), List.mem_range'_1]
    omega
  have hrange : (List.range' start count).filter p = List.range' start count := by
    refine List.filter_eq_self.mpr fun i hi => ?_
    have hlt := List.mem_range'_1.mp hi
    exact (h i (by omega)).mpr hi
  have hafter : (List.range' (start + count) (n - (start + count))).filter p = [] := by
    refine List.filter_eq_nil_iff.mpr fun i hi => ?_
    rw [List.mem_range'_1] at hi
    rw [h i (by omega), List.mem_range'_1]
    omega
  rw [hsplit, List.filter_append, List.filter_append, hbefore, hrange, hafter, List.nil_append, List.append_nil]

/-- A controller's row is the one that its declaration comes to, after the ports of the controllers before it. -/
theorem exists_split_of_mem_controllerRows {cs : List ControllerDecl} {start : Nat} {row : BoardController}
    (h : row ∈ controllerRows start cs) :
    ∃ before c after, cs = before ++ c :: after ∧ row = c.row (start + (portSites before).length) := by
  induction cs generalizing start with
  | nil => cases h
  | cons c cs ih =>
    rw [controllerRows, List.mem_cons] at h
    rcases h with rfl | h
    · exact ⟨[], c, cs, rfl, rfl⟩
    · obtain ⟨before, b, after, rfl, rfl⟩ := ih h
      refine ⟨c :: before, b, after, rfl, ?_⟩
      rw [show portSites (c :: before) = c.sites ++ portSites before from rfl, List.length_append, c.length_sites,
        Nat.add_assoc]

theorem flatMap_ports_controllerRows (start : Nat) (cs : List ControllerDecl) :
    (controllerRows start cs).flatMap (·.ports) = List.range' start (portSites cs).length := by
  induction cs generalizing start with
  | nil => rfl
  | cons c cs ih =>
    rw [controllerRows, List.flatMap_cons, ih, show portSites (c :: cs) = c.sites ++ portSites cs from rfl,
      List.length_append, c.length_sites]
    exact List.range'_append_1

theorem ControllersFit.position_lt {cs : List ControllerDecl} (h : ControllersFit cs) {p : PortSite}
    (hp : p ∈ portSites cs) : p.position < 256 := by
  obtain ⟨c, hc, hmem⟩ := mem_portSites.mp hp
  exact (c.position_lt_iff 256).mpr (h.ports_fit c hc) p hmem

/-! ## Devices -/

namespace DeviceDecl.SitsOn

variable {cs : List ControllerDecl} {d : DeviceDecl} {p : PortSite} (h : d.SitsOn cs p)
include h

theorem bus_eq (name : String) (hname : d.bus = some name) : p.decl.name = some name := by
  cases h with
  | ofBus hbus _ _ _ hp => exact hp.trans (hbus.symm.trans hname)
  | ofKey hbus _ _ _ _ | ofController hbus _ _ _ _ => rw [hbus] at hname; cases hname

theorem controller_eq (number : UInt8) (hnumber : d.controller = some number) : p.controller = ⟨number⟩ := by
  cases h with
  | ofBus _ hno _ _ _ => rw [hno] at hnumber; cases hnumber
  | ofKey _ hcontroller _ _ hp =>
    rw [ControllerDecl.controller_of_mem_sites hp, Option.some.inj (hcontroller.symm.trans hnumber)]
  | ofController _ hcontroller _ _ hone =>
    have hp := ControllerDecl.controller_of_mem_sites (hone ▸ List.mem_singleton_self p)
    rw [hp, Option.some.inj (hcontroller.symm.trans hnumber)]

theorem key_eq (key : String) (hkey : d.port = some key) : p.key = key := by
  cases h with
  | ofKey _ _ hport _ _ => exact Option.some.inj (hport.symm.trans hkey)
  | ofBus _ _ hno _ _ | ofController _ _ hno _ _ => rw [hno] at hkey; cases hkey

end DeviceDecl.SitsOn

namespace Topology.Declares

variable {t : Topology} {cs : List ControllerDecl} (h : t.Declares cs) (hf : ControllersFit cs)
include h hf

theorem slots_eq {row : BoardController} (hrow : row ∈ t.controllers) : row.ports = t.slotsOf row.controller := by
  rw [h.controllers_eq] at hrow
  obtain ⟨before, c, after, hsplit, rfl⟩ := exists_split_of_mem_controllerRows hrow
  have hlength : t.ports.length = (portSites before).length + c.ports.size + (portSites after).length := by
    rw [h.ports_eq, length_portRows, portSites_eq_of_split hsplit, List.length_append, List.length_append,
      c.length_sites]
  refine (filter_range_eq_range' (by rw [hlength]; omega) fun slot hslot => ?_).symm
  rw [h.ports_eq, length_portRows] at hslot
  rw [h.ports_eq, getElem?_portRows, List.getElem?_eq_getElem hslot, Nat.zero_add]
  have hp : (portSites cs)[slot]? = some (portSites cs)[slot] := List.getElem?_eq_getElem hslot
  rw [hf.mem_range'_iff hsplit hp]
  simp only [Option.map_some, Option.any_some, PortSite.row, ControllerDecl.row, beq_iff_eq]
  refine ⟨fun hcontroller => ?_, ControllerDecl.controller_of_mem_sites⟩
  obtain ⟨b, hb, hmem⟩ := mem_portSites.mp (List.mem_of_getElem? hp)
  have hnumber := (ControllerDecl.controller_of_mem_sites hmem).symm.trans hcontroller
  have hc : c ∈ cs := hsplit ▸ List.mem_append_right _ List.mem_cons_self
  obtain rfl := hf.eq_of_number hb hc (Controller.mk.inj hnumber)
  exact hmem

theorem index_eq {row : BoardController} (hrow : row ∈ t.controllers) {k slot : Nat} (hk : row.ports[k]? = some slot) :
    ∃ p : BoardPort, t.ports[slot]? = some p ∧ p.controller = row.controller ∧ p.index.number.toNat = k := by
  rw [h.controllers_eq] at hrow
  obtain ⟨before, c, after, hsplit, rfl⟩ := exists_split_of_mem_controllerRows hrow
  rw [Nat.zero_add] at hk
  have hsites := congrArg (·[k]?) (map_getElem?_portSites hsplit)
  simp only [List.getElem?_map] at hsites
  rw [show (List.range' (portSites before).length c.ports.size)[k]? = some slot from hk] at hsites
  obtain ⟨p, hp, hslot⟩ := Option.map_eq_some_iff.mp hsites.symm
  have hmem := List.mem_of_getElem? hp
  replace hslot : (portSites cs)[slot]? = some p := hslot.symm
  refine ⟨p.row (muxCount ((portSites cs).take slot)), ?_, ControllerDecl.controller_of_mem_sites hmem, ?_⟩
  · rw [h.ports_eq, getElem?_portRows, hslot, Nat.zero_add]
    rfl
  · rw [← ControllerDecl.position_of_getElem? hp]
    have hc : c ∈ before ++ c :: after := List.mem_append_right _ List.mem_cons_self
    exact p.toNat_index (hf.position_lt (mem_portSites.mpr ⟨c, hsplit ▸ hc, hmem⟩))

theorem id_eq {row : Nat} {m : MuxDescriptor} (hm : t.muxes[row]? = some m) : m.id.number.toNat = row := by
  have hlt := (List.getElem?_eq_some_iff.mp hm).1
  have hid := congrArg (·[row]?) (map_id_muxRows 0 (portSites cs))
  rw [h.muxes_eq] at hm hlt
  rw [length_muxRows] at hlt
  have hlimit := hf.muxes_fit
  simp only [List.getElem?_map, hm, Option.map_some, List.getElem?_range' hlt, Option.some.injEq] at hid
  rw [hid, UInt8.toNat_ofNat', Nat.mod_eq_of_lt (by omega)]
  omega

/-- The rows of a port are those of the multiplexers on its bus. -/
theorem rows_eq {row : BoardPort} (hrow : row ∈ t.ports) : row.muxes = t.muxesOn row.controller row.index := by
  obtain ⟨slot, hslot⟩ := List.getElem?_of_mem hrow
  rw [h.ports_eq, getElem?_portRows, Nat.zero_add] at hslot
  obtain ⟨p, hp, rfl⟩ := Option.map_eq_some_iff.mp hslot
  have hfit : muxCount ((portSites cs).take slot) + p.decl.muxes.length ≤ t.muxes.length := by
    rw [h.muxes_eq, length_muxRows]
    exact muxCount_take_add_le hp
  have hlimit := hf.muxCount_take_add_le hp
  refine (filter_range_eq_range' hfit fun i hi => ?_).symm
  have hm : t.muxes[i]? = some t.muxes[i] := List.getElem?_eq_getElem hi
  rw [hm, Option.any_some, List.mem_range'_1]
  constructor
  · intro hon
    obtain ⟨j, decl, hdecl, hrow⟩ := hf.exists_of_isOn hp (h.muxes_eq ▸ List.mem_of_getElem? hm) hon
    have hj := (List.getElem?_eq_some_iff.mp hdecl).1
    -- the id tells the row
    have hid := h.id_eq hf hm
    rw [hrow, MuxDecl.descriptor, UInt8.toNat_ofNat', Nat.mod_eq_of_lt (by omega)] at hid
    omega
  · rintro ⟨hlo, hhi⟩
    have hj : i - muxCount ((portSites cs).take slot) < p.decl.muxes.length := by omega
    have hfound := getElem?_muxRows hp (List.getElem?_eq_getElem hj)
    rw [Nat.add_sub_cancel' hlo, ← h.muxes_eq, hm] at hfound
    rw [Option.some.inj hfound]
    exact MuxDescriptor.isOn_iff.mpr ⟨rfl, rfl⟩

theorem mux_address {m : MuxDescriptor} (hm : m ∈ t.muxes) : isAssignable m.address = true := by
  rw [h.muxes_eq] at hm
  obtain ⟨slot, p, i, decl, hp, hdecl, rfl⟩ := exists_of_mem_muxRows hm
  exact isAssignable_iff.mpr ((hf.ports p (List.mem_of_getElem? hp)).muxes decl (List.mem_of_getElem? hdecl)).address

end Topology.Declares

namespace Topology.Declares

variable {t : Topology} {cs : List ControllerDecl} (h : t.Declares cs) {d : DeviceDecl}
include h

/-- A route that fits a port is the one that the device declares. -/
theorem routedBy {slot : Nat} {p : PortSite} (hp : (portSites cs)[slot]? = some p) (hfits : d.RouteFits p) :
    d.RoutedBy t (p.row (muxCount ((portSites cs).take slot))) (d.route (muxCount ((portSites cs).take slot))) := by
  unfold DeviceDecl.RouteFits at hfits
  unfold DeviceDecl.route
  cases hmux : d.mux with
  | none =>
    cases hsegment : d.segment with
    | none => exact .direct hmux hsegment
    | some _ => simp [hmux, hsegment] at hfits
  | some number =>
    cases hsegment : d.segment with
    | none => simp [hmux, hsegment] at hfits
    | some segment =>
      simp only [hmux, hsegment] at hfits
      obtain ⟨hone, m, hm, hfirst, hlast⟩ := hfits
      have hlt := (List.getElem?_eq_some_iff.mp hm).1
      have hrow := getElem?_muxRows hp hm
      rw [← h.muxes_eq] at hrow
      refine .behind hmux hsegment hone ?_ hrow hfirst hlast
      rw [PortSite.row, List.getElem?_range' hlt, Nat.one_mul]

/-- A device is described by the row that it is placed as. -/
theorem describedBy {b : BoardDevice} (hd : d.PlacedAs cs b) : d.DescribedBy t b := by
  obtain ⟨slot, p, hp, hs, hfits, rfl⟩ := hd
  refine ⟨rfl, rfl, rfl, rfl, rfl, rfl, rfl, rfl, p.row (muxCount ((portSites cs).take slot)), ?_⟩
  refine ⟨?_, rfl, rfl, rfl, hs.bus_eq, hs.controller_eq, hs.key_eq, h.routedBy hp hfits.route⟩
  show t.ports[slot]? = _
  rw [h.ports_eq, getElem?_portRows, hp, Nat.zero_add]
  rfl

end Topology.Declares

/-! ## Whole documents -/

namespace Document

variable {d : Document} {t : Topology}

theorem wellFormed_of_resolve (h : d.resolve = .ok t) : t.WellFormed := by
  have hcovers := covers_of_resolve h
  have hfit := controllersFit_of_resolve h
  have hplaced : ∀ b ∈ t.devices, ∃ e : DeviceDecl, e.PlacedAs d.controllers b := fun b hb => by
    obtain ⟨row, hrow⟩ := List.getElem?_of_mem hb
    obtain ⟨e, -, he⟩ := hcovers.exists_placedAs hrow
    exact ⟨e, he⟩
  refine
    { slots_eq := fun c hc => hcovers.declares.slots_eq hfit hc
      index_eq := fun c hc k slot hk => hcovers.declares.index_eq hfit hc hk
      slots_dense := ?_
      rows_eq := fun p hp => hcovers.declares.rows_eq hfit hp
      id_eq := fun row m hm => hcovers.declares.id_eq hfit hm
      mux_address := fun m hm => hcovers.declares.mux_address hfit hm
      device_address := fun b hb => ?_
      off_muxes := fun b hb => ?_
      places := places_pairwise h }
  · rw [hcovers.declares.controllers_eq, flatMap_ports_controllerRows, hcovers.declares.ports_eq, length_portRows,
      List.range_eq_range']
  · obtain ⟨e, slot, p, -, -, hfits, rfl⟩ := hplaced b hb
    exact isAssignable_iff.mpr hfits.address
  · obtain ⟨e, he⟩ := hplaced b hb
    rw [hcovers.declares.muxes_eq]
    exact he.offMuxes hfit

theorem describedBy_of_resolve (h : d.resolve = .ok t) : d.DescribedBy t := by
  have hcovers := covers_of_resolve h
  have hfit := controllersFit_of_resolve h
  have hports : ∀ p ∈ portSites d.controllers, p.position < 256 ∧ p.decl.Fits := fun p hp =>
    ⟨hfit.position_lt hp, hfit.ports p hp⟩
  refine ⟨?_, ?_, ?_, ?_⟩
  · rw [hcovers.declares.controllers_eq]
    exact forall₂_controllerRows 0 d.controllers
  · rw [hcovers.declares.ports_eq]
    exact forall₂_portRows hports 0
  · rw [hcovers.declares.muxes_eq]
    exact forall₂_muxRows hports 0
  · refine List.forall₂_iff_get.mpr ⟨hcovers.length_devices.symm, fun i hi hi' => ?_⟩
    obtain ⟨e, he, hplaced⟩ := hcovers.exists_placedAs (List.getElem?_eq_getElem hi')
    rw [List.getElem?_eq_getElem hi] at he
    obtain rfl := Option.some.inj he
    exact hcovers.declares.describedBy hplaced

/-- **Resolution is faithful.** The tables of a resolved document describe its declarations, row by row and in order,
and refer to each other as they should. -/
theorem faithful_of_resolve (h : d.resolve = .ok t) : d.DescribedBy t ∧ t.WellFormed :=
  ⟨describedBy_of_resolve h, wellFormed_of_resolve h⟩

end Document

namespace CrossWired

/-- The multiplexers of a controller with two ports come before that of the next controller. -/
def document : Document where
  controllers := [
    { controller := 3
      ports := .ofList [
        ("A", { name := some "left", pins := [{ pins := [6, 7, 6], function := 4 }], muxes := [{ address := 0x70 }] }),
        ("B", { muxes := [
          { part := .pca9548, address := 0x70, segments := some 5,
            nreset := some { gpioPort := some "C", pins := [15] } },
          { address := 0x71 }] })] },
    { controller := 1
      ports := .ofList [("A", { name := some "right", muxes := [{ part := .ltc4306, address := 0x44 }] })] }]
  devices := [
    { device := "max5970", controller := some 3, port := some "B", address := 0x50, mux := some 2, segment := some 4 },
    { device := "raw", controller := some 3, port := some "B", address := 0x50, mux := some 2, segment := some 4,
      isAlias := true },
    { device := "tmp117", bus := some "right", address := 0x48, mux := some 1, segment := some 2 },
    { device := "tmp117", bus := some "left", address := 0x48 }]

def board : Topology := document.resolve.toOption.getD {}

/-- The second multiplexer on the second port is the third one of the board, and an alias sits behind it too. -/
theorem faithful_behind_third_mux :
    document.resolve = .ok board ∧ (board.devices.map fun b => (b.portSlot, b.place.route)) =
      [(1, some ⟨⟨2⟩, ⟨4⟩⟩), (1, some ⟨⟨2⟩, ⟨4⟩⟩), (2, some ⟨⟨3⟩, ⟨2⟩⟩), (0, none)] ∧
      document.DescribedBy board ∧ board.WellFormed :=
  ⟨rfl, rfl, Document.faithful_of_resolve rfl⟩

end CrossWired

end I2cTopology
