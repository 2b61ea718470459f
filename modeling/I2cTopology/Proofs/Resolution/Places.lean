import I2cTopology.Topology.Devices
import I2cTopology.Proofs.KeyedList
import I2cTopology.Proofs.Resolution.Ports

/-!
# Where the devices of a document are

A device names the port that it sits on (`DeviceDecl.SitsOn`) and the way to it from there (`DeviceDecl.RouteFits`).
Over the tables of controllers that fit, the port is found exactly when there is one (`slotOf_eq_ok_iff`), the route
exactly when it fits (`routeOf_eq_ok_iff`), and the device is placed exactly when it also has an address that is free
(`placeDevice_eq_ok_iff`).
-/

namespace I2cTopology

/-! ## Ports of devices -/

/-- A device sits on a port. -/
inductive DeviceDecl.SitsOn (cs : List ControllerDecl) (d : DeviceDecl) (p : PortSite) : Prop
  /-- It names the bus, and neither a controller nor a port. -/
  | ofBus {name : String} : d.bus = some name → d.controller = none → d.port = none → p ∈ portSites cs →
    p.decl.name = some name → SitsOn cs d p
  /-- It names the controller and the key of the port. -/
  | ofKey {c : ControllerDecl} : d.bus = none → d.controller = some c.controller → d.port = some p.key → c ∈ cs →
    p ∈ c.sites → SitsOn cs d p
  /-- It names the controller, which has no other port. -/
  | ofController {c : ControllerDecl} : d.bus = none → d.controller = some c.controller → d.port = none → c ∈ cs →
    c.sites = [p] → SitsOn cs d p

theorem DeviceDecl.SitsOn.mem {cs : List ControllerDecl} {d : DeviceDecl} {p : PortSite} (h : d.SitsOn cs p) :
    p ∈ portSites cs := by
  cases h with
  | ofBus _ _ _ hp _ => exact hp
  | ofKey _ _ _ hc hp => exact mem_portSites.mpr ⟨_, hc, hp⟩
  | ofController _ _ _ hc hp => exact mem_portSites.mpr ⟨_, hc, hp ▸ List.mem_singleton_self p⟩

/-- The tables of controllers, ports and multiplexers are those of the given controllers. -/
structure Topology.Declares (t : Topology) (cs : List ControllerDecl) : Prop where
  controllers_eq : t.controllers = controllerRows 0 cs
  ports_eq : t.ports = portRows 0 (portSites cs)
  muxes_eq : t.muxes = muxRows 0 (portSites cs)

theorem mem_controllerRows (start : Nat) (before after : List ControllerDecl) (c : ControllerDecl) :
    c.row (start + (portSites before).length) ∈ controllerRows start (before ++ c :: after) := by
  rw [controllerRows_append, controllerRows]
  exact List.mem_append_right _ List.mem_cons_self

/-- The ports of all controllers are those of one of them, amid the ports of the others. -/
theorem portSites_eq_of_split {cs before after : List ControllerDecl} {c : ControllerDecl}
    (hsplit : cs = before ++ c :: after) : portSites cs = portSites before ++ c.sites ++ portSites after := by
  rw [hsplit, portSites_append, List.append_assoc]
  rfl

/-- The rows of a controller's ports are those of its sites. -/
theorem map_getElem?_portSites {cs before after : List ControllerDecl} {c : ControllerDecl}
    (hsplit : cs = before ++ c :: after) :
    (List.range' (portSites before).length c.ports.size).map ((portSites cs)[·]?) = c.sites.map some := by
  rw [portSites_eq_of_split hsplit, ← c.length_sites]
  exact map_getElem?_range' (portSites before) c.sites (portSites after)

namespace ControllersFit

variable {cs before after : List ControllerDecl} {c b : ControllerDecl} {p : PortSite}

theorem eq_of_number (h : ControllersFit cs) (hc : c ∈ cs) (hb : b ∈ cs) (e : c.controller = b.controller) : c = b :=
  List.inj_on_of_nodup_map h.numbers hc hb e

/-- A port of a controller is found among that controller's rows and nowhere else. -/
theorem mem_range'_iff (h : ControllersFit cs) (hsplit : cs = before ++ c :: after) {slot : Nat}
    (hp : (portSites cs)[slot]? = some p) :
    slot ∈ List.range' (portSites before).length c.ports.size ↔ p ∈ c.sites := by
  have hsites := portSites_eq_of_split hsplit
  have hnumbers := h.numbers
  rw [hsplit, List.map_append, List.map_cons, List.nodup_append, List.nodup_cons] at hnumbers
  obtain ⟨-, ⟨hafter, -⟩, hbefore⟩ := hnumbers
  rw [List.mem_range'_1, ← c.length_sites]
  constructor
  · rintro ⟨hlo, hhi⟩
    rw [hsites, List.getElem?_append_left (by rw [List.length_append]; omega), List.getElem?_append_right hlo] at hp
    exact List.mem_of_getElem? hp
  · intro hmem
    -- a slot before or behind the rows would give the port to a controller with another number
    have hnumber := ControllerDecl.controller_of_mem_sites hmem
    have hother : ∀ b ∈ cs, p ∈ b.sites → b.controller = c.controller := fun b _ hb =>
      Controller.mk.inj ((ControllerDecl.controller_of_mem_sites hb).symm.trans hnumber)
    rw [hsites] at hp
    by_cases hlo : slot < (portSites before).length
    · rw [List.append_assoc, List.getElem?_append_left hlo] at hp
      obtain ⟨b, hb, hpb⟩ := mem_portSites.mp (List.mem_of_getElem? hp)
      exact absurd (hother b (by simp [hsplit, hb]) hpb)
        (hbefore _ (List.mem_map_of_mem hb) _ List.mem_cons_self)
    · by_cases hhi : slot < (portSites before).length + c.sites.length
      · exact ⟨by omega, hhi⟩
      · rw [List.getElem?_append_right (by rw [List.length_append]; omega)] at hp
        obtain ⟨b, hb, hpb⟩ := mem_portSites.mp (List.mem_of_getElem? hp)
        exact absurd (List.mem_map.mpr ⟨b, hb, hother b (by simp [hsplit, hb]) hpb⟩) hafter

/-- The slot of a port is that of its controller's first port, and its position on. -/
theorem slot_eq (h : ControllersFit cs) (hsplit : cs = before ++ c :: after) {slot : Nat}
    (hp : (portSites cs)[slot]? = some p) (hmem : p ∈ c.sites) : slot = (portSites before).length + p.position := by
  obtain ⟨k, hk⟩ : ∃ k, slot = (portSites before).length + k :=
    ⟨slot - (portSites before).length, by
      have := (List.mem_range'_1.mp ((h.mem_range'_iff hsplit hp).mpr hmem)).1
      omega⟩
  have hslot := (h.mem_range'_iff hsplit hp).mpr hmem
  subst hk
  have hlt : k < c.ports.size := by
    have := (List.mem_range'_1.mp hslot).2
    omega
  have hrow := congrArg (·[k]?) (map_getElem?_portSites hsplit)
  simp only [List.getElem?_map, List.getElem?_range' hlt, Nat.one_mul, Option.map_some, hp] at hrow
  have hsite : c.sites[k]? = some p := by
    cases hk : c.sites[k]? with
    | none => simp [hk] at hrow
    | some q => simpa [hk] using hrow.symm
  rw [ControllerDecl.position_of_getElem? hsite]

/-- A controller has a single row of ports exactly when it has a single port. -/
theorem range'_eq_singleton_iff (h : ControllersFit cs) (hsplit : cs = before ++ c :: after) {slot : Nat} :
    List.range' (portSites before).length c.ports.size = [slot] ↔
      ∃ p, (portSites cs)[slot]? = some p ∧ c.sites = [p] := by
  have hrange := map_getElem?_portSites hsplit
  constructor
  · intro hone
    have hsize := congrArg List.length hone
    rw [List.length_range', ← c.length_sites] at hsize
    obtain ⟨p, hp⟩ := List.length_eq_one_iff.mp hsize
    rw [hone, hp] at hrange
    exact ⟨p, List.singleton_inj.mp hrange, hp⟩
  · rintro ⟨p, hp, hone⟩
    have hslot := (h.mem_range'_iff hsplit hp).mpr (hone ▸ List.mem_singleton_self p)
    rw [← c.length_sites, hone] at hslot ⊢
    rw [List.length_singleton, List.mem_range'_1] at hslot
    show [(portSites before).length] = [slot]
    rw [show slot = (portSites before).length by omega]

end ControllersFit

namespace Topology.Declares

variable {t : Topology} {cs before after : List ControllerDecl} {c : ControllerDecl} {p : PortSite} {slot : Nat}

theorem nodup_controllers (h : t.Declares cs) (hf : ControllersFit cs) : (t.controllers.map (·.controller)).Nodup := by
  rw [h.controllers_eq, map_controller_controllerRows]
  refine List.Nodup.of_map Controller.number ?_
  rw [List.map_map]
  exact hf.numbers

theorem find?_controller (h : t.Declares cs) (hf : ControllersFit cs) (hsplit : cs = before ++ c :: after) :
    t.controllers.find? (·.controller == ⟨c.controller⟩) = some (c.row (portSites before).length) := by
  have hn := h.nodup_controllers hf
  refine (KeyedList.find?_eq_some_iff_of_nodup (·.controller) (by simp [ControllerDecl.row]) hn).mpr ⟨?_, rfl⟩
  rw [h.controllers_eq]
  have hmem := mem_controllerRows 0 before after c
  rw [Nat.zero_add] at hmem
  rw [hsplit]
  exact hmem

theorem find?_controller_eq_none (h : t.Declares cs) {number : UInt8} (hno : ∀ c ∈ cs, c.controller ≠ number) :
    t.controllers.find? (·.controller == ⟨number⟩) = none := by
  refine List.find?_eq_none.mpr fun row hrow => ?_
  rw [h.controllers_eq] at hrow
  have hmem := List.mem_map_of_mem (f := (·.controller)) hrow
  rw [map_controller_controllerRows] at hmem
  obtain ⟨c, hc, he⟩ := List.mem_map.mp hmem
  simp only [← he, beq_iff_eq, Controller.mk.injEq]
  exact hno c hc

theorem port_eq_ok_iff (h : t.Declares cs) {row : BoardPort} : t.port slot = .ok row ↔
    ∃ p, (portSites cs)[slot]? = some p ∧ row = p.row (muxCount ((portSites cs).take slot)) := by
  unfold port
  rw [h.ports_eq, getElem?_portRows, Nat.zero_add]
  cases (portSites cs)[slot]? with
  | none => simp
  | some p => simp [eq_comm]

theorem findIdx?_bus (h : t.Declares cs) (hf : ControllersFit cs) {name : String} :
    t.ports.findIdx? (·.name == some name) = some slot ↔
      ∃ p, (portSites cs)[slot]? = some p ∧ p.decl.name = some name := by
  have hmap := congrArg (·.findIdx? (· == some name)) (map_name_portRows 0 (portSites cs))
  simp only [List.findIdx?_map, Function.comp_def] at hmap
  rw [h.ports_eq, hmap, KeyedList.findIdx?_eq_some_iff_of_unique]
  · simp
  · have hnames := hf.bus_names
    rw [List.Nodup, List.pairwise_filterMap] at hnames
    refine hnames.imp fun {a b} hab ha => ?_
    simp only [beq_iff_eq, beq_eq_false_iff_ne] at ha ⊢
    exact fun hb => hab name ha name hb rfl

/-- The slot of a port of a controller by its key. -/
theorem findM?_key (h : t.Declares cs) (hf : ControllersFit cs) (hsplit : cs = before ++ c :: after) (key : String)
    (slot : Nat) :
    ∃ found, (List.range' (portSites before).length c.ports.size).findM?
        (fun slot => (t.port slot).map (·.key == key)) = .ok found ∧
      (found = some slot ↔ ∃ p, (portSites cs)[slot]? = some p ∧ p ∈ c.sites ∧ p.key = key) := by
  have hrange := map_getElem?_portSites hsplit
  have htest : ∀ slot ∈ List.range' (portSites before).length c.ports.size,
      (t.port slot).map (·.key == key) = .ok (((portSites cs)[slot]?).any (·.key == key)) := by
    intro slot hslot
    obtain ⟨p, -, hp⟩ := List.mem_map.mp
      (hrange ▸ List.mem_map_of_mem hslot : (portSites cs)[slot]? ∈ c.sites.map some)
    rw [h.port_eq_ok_iff.mpr ⟨p, hp.symm, rfl⟩, ← hp]
    rfl
  refine ⟨_, findM?_eq_ok htest, ?_⟩
  have hkeys : ((List.range' (portSites before).length c.ports.size).map fun slot =>
      ((portSites cs)[slot]?).map (·.key)).Nodup := by
    have hnodup := (c.map_key_sites ▸ c.ports.nodup_keys : (c.sites.map (·.key)).Nodup).map fun _ _ => Option.some.inj
    have hmap := congrArg (·.map (Option.map (·.key))) hrange
    simp only [List.map_map, Function.comp_def, Option.map_some] at hmap hnodup
    rw [hmap]
    exact hnodup
  rw [KeyedList.find?_eq_some_iff_of_nodup (fun slot => ((portSites cs)[slot]?).map (·.key))
    (k := some key) (fun slot => by cases (portSites cs)[slot]? <;> simp) hkeys]
  constructor
  · rintro ⟨hslot, hkey⟩
    obtain ⟨p, hp, rfl⟩ := Option.map_eq_some_iff.mp hkey
    exact ⟨p, hp, (hf.mem_range'_iff hsplit hp).mp hslot, rfl⟩
  · rintro ⟨p, hp, hmem, rfl⟩
    exact ⟨(hf.mem_range'_iff hsplit hp).mpr hmem, by rw [hp]; rfl⟩

/-- The port of a device that names a bus. -/
theorem slotOf_of_bus (h : t.Declares cs) (hf : ControllersFit cs) {d : DeviceDecl} {name : String}
    (hbus : d.bus = some name) : t.slotOf d = .ok slot ↔ ∃ p, (portSites cs)[slot]? = some p ∧ d.SitsOn cs p := by
  have hsits : ∀ p, d.SitsOn cs p ↔
      d.controller = none ∧ d.port = none ∧ p ∈ portSites cs ∧ p.decl.name = some name := fun p => by
    constructor
    · intro hs
      cases hs with
      | ofBus hbus' hcontroller hport hp hname =>
        exact ⟨hcontroller, hport, hp, hname.trans (hbus'.symm.trans hbus)⟩
      | ofKey hno _ _ _ _ | ofController hno _ _ _ _ => rw [hbus] at hno; cases hno
    · rintro ⟨hcontroller, hport, hp, hname⟩
      exact .ofBus hbus hcontroller hport hp hname
  simp only [slotOf, hbus, hsits]
  cases hcontroller : d.controller with
  | some number => exact ⟨nofun, fun ⟨_, _, hno, _⟩ => nomatch hno⟩
  | none =>
    simp only [bind_eq_ok_iff, ensure_eq_ok_iff, exists_const, Option.isNone_iff_eq_none, true_and]
    constructor
    · rintro ⟨hport, hfound⟩
      cases hslot : t.ports.findIdx? (·.name == some name) with
      | none => simp [hslot] at hfound
      | some slot' =>
        simp only [hslot, Except.ok.injEq] at hfound
        subst hfound
        obtain ⟨p, hp, hname⟩ := (h.findIdx?_bus hf).mp hslot
        exact ⟨p, hp, hport, List.mem_of_getElem? hp, hname⟩
    · rintro ⟨p, hp, hport, -, hname⟩
      refine ⟨hport, ?_⟩
      simp only [(h.findIdx?_bus hf).mpr ⟨p, hp, hname⟩]

/-- The port of a device that names a controller of the document and no bus. -/
theorem slotOf_of_controller (h : t.Declares cs) (hf : ControllersFit cs) {d : DeviceDecl} (hbus : d.bus = none)
    (hc : c ∈ cs) (hcontroller : d.controller = some c.controller) :
    t.slotOf d = .ok slot ↔ ∃ p, (portSites cs)[slot]? = some p ∧ d.SitsOn cs p := by
  have hsits : ∀ p, d.SitsOn cs p ↔
      (d.port = some p.key ∧ p ∈ c.sites) ∨ (d.port = none ∧ c.sites = [p]) := fun p => by
    constructor
    · intro hs
      cases hs with
      | ofBus hno _ _ _ _ => rw [hbus] at hno; cases hno
      | ofKey _ hnumber hkey hc' hp =>
        rw [hf.eq_of_number hc hc' (Option.some.inj (hcontroller.symm.trans hnumber))]
        exact Or.inl ⟨hkey, hp⟩
      | ofController _ hnumber hport hc' hp =>
        rw [hf.eq_of_number hc hc' (Option.some.inj (hcontroller.symm.trans hnumber))]
        exact Or.inr ⟨hport, hp⟩
    · rintro (⟨hport, hp⟩ | ⟨hport, hp⟩)
      · exact .ofKey hbus hcontroller hport hc hp
      · exact .ofController hbus hcontroller hport hc hp
  obtain ⟨before, after, hsplit⟩ := List.append_of_mem hc
  simp only [slotOf, hbus, hcontroller, h.find?_controller hf hsplit, ControllerDecl.row, hsits]
  cases hport : d.port with
  | some key =>
    obtain ⟨found, hfound, hiff⟩ := h.findM?_key hf hsplit key slot
    have hkey : (∃ p, (portSites cs)[slot]? = some p ∧
        ((some key = some p.key ∧ p ∈ c.sites) ∨ (some key = none ∧ c.sites = [p]))) ↔ found = some slot := by
      rw [hiff]
      simp [and_comm, eq_comm]
    rw [hkey]
    simp only [hfound]
    cases found with
    | none => exact ⟨nofun, nofun⟩
    | some other =>
      exact ⟨fun e => congrArg some (Except.ok.inj e), fun e => congrArg Except.ok (Option.some.inj e)⟩
  | none =>
    have hone : (∃ p, (portSites cs)[slot]? = some p ∧
        ((none = some p.key ∧ p ∈ c.sites) ∨ (none = (none : Option String) ∧ c.sites = [p]))) ↔
        List.range' (portSites before).length c.ports.size = [slot] := by
      rw [hf.range'_eq_singleton_iff hsplit]
      simp
    rw [hone]
    generalize List.range' (portSites before).length c.ports.size = slots
    match slots with
    | [] => exact ⟨nofun, nofun⟩
    | [_] => simp
    | _ :: _ :: _ => exact ⟨nofun, nofun⟩

/-- The port of a device is found exactly when it sits on one. -/
theorem slotOf_eq_ok_iff (h : t.Declares cs) (hf : ControllersFit cs) (d : DeviceDecl) :
    t.slotOf d = .ok slot ↔ ∃ p, (portSites cs)[slot]? = some p ∧ d.SitsOn cs p := by
  cases hbus : d.bus with
  | some name => exact h.slotOf_of_bus hf hbus
  | none =>
    by_cases hknown : ∃ c ∈ cs, d.controller = some c.controller
    · obtain ⟨c, hc, hcontroller⟩ := hknown
      exact h.slotOf_of_controller hf hbus hc hcontroller
    · have hnowhere : ¬∃ p, (portSites cs)[slot]? = some p ∧ d.SitsOn cs p := fun ⟨p, _, hs⟩ => by
        cases hs with
        | ofBus hno _ _ _ _ => rw [hbus] at hno; cases hno
        | ofKey _ hcontroller _ hc _ | ofController _ hcontroller _ hc _ => exact hknown ⟨_, hc, hcontroller⟩
      refine iff_of_false ?_ hnowhere
      unfold slotOf
      simp only [hbus]
      cases hcontroller : d.controller with
      | none => exact nofun
      | some number =>
        have hno : ∀ c ∈ cs, c.controller ≠ number := fun c hc e =>
          hknown ⟨c, hc, hcontroller.trans (congrArg some e.symm)⟩
        simp only [h.find?_controller_eq_none hno]
        exact nofun

end Topology.Declares

/-! ## Routes of devices -/

/-- What a device says about its way from the port: nothing, or a multiplexer on the port and a segment of it. -/
def DeviceDecl.RouteFits (d : DeviceDecl) (p : PortSite) : Prop :=
  match d.mux, d.segment with
  | none, none => True
  | some number, some segment => 1 ≤ number ∧ ∃ m, p.decl.muxes[number.toNat - 1]? = some m ∧
    1 ≤ segment ∧ segment ≤ m.segmentCount
  | _, _ => False

/-- The route to a device on a port whose multiplexers are in rows from `start` on. -/
def DeviceDecl.route (d : DeviceDecl) (start : Nat) : Option Route :=
  match d.mux, d.segment with
  | some number, some segment => some ⟨⟨UInt8.ofNat (start + (number.toNat - 1))⟩, ⟨segment⟩⟩
  | _, _ => none

/-- A multiplexer of a port is in the row that the port refers to. -/
theorem getElem?_muxRows {ps : List PortSite} {slot : Nat} {p : PortSite} (h : ps[slot]? = some p) {i : Nat}
    {m : MuxDecl} (hm : p.decl.muxes[i]? = some m) : (muxRows 0 ps)[muxCount (ps.take slot) + i]? =
      some (m.descriptor p.ref (muxCount (ps.take slot) + i)) := by
  have hrow := congrArg (·[i]?) (map_getElem?_muxRows h)
  have hlt := (List.getElem?_eq_some_iff.mp hm).1
  simp only [List.getElem?_map, List.getElem?_range' hlt, MuxDecl.getElem?_rows, hm, Option.map_some, Nat.one_mul,
    Option.some.injEq] at hrow
  exact hrow

namespace Topology.Declares

variable {t : Topology} {cs : List ControllerDecl} {p : PortSite} {slot : Nat}

/-- The route to a device is found exactly when it fits. -/
theorem routeOf_eq_ok_iff (h : t.Declares cs) (hp : (portSites cs)[slot]? = some p) (d : DeviceDecl)
    {r : Option Route} : t.routeOf (p.row (muxCount ((portSites cs).take slot))) d = .ok r ↔
      d.RouteFits p ∧ r = d.route (muxCount ((portSites cs).take slot)) := by
  generalize hstart : muxCount ((portSites cs).take slot) = start
  unfold routeOf DeviceDecl.RouteFits DeviceDecl.route
  cases d.mux with
  | none => cases d.segment <;> simp [eq_comm]
  | some number =>
    cases d.segment with
    | none => simp
    | some segment =>
      simp only []
      by_cases hzero : number = 0
      · subst hzero
        simp [muxOf]
      · have hone : 1 ≤ number := by
          rw [UInt8.le_iff_toNat_le]
          have : number.toNat ≠ 0 := fun e => hzero (UInt8.toNat.inj e)
          simp only [UInt8.toNat_one]
          omega
        cases hm : p.decl.muxes[number.toNat - 1]? with
        | none =>
          have hno : muxOf (p.row start) number = none := by
            rw [muxOf, if_neg hzero]
            simpa [PortSite.row] using hm
          simp [hno]
        | some m =>
          have hlt := (List.getElem?_eq_some_iff.mp hm).1
          have hrow : muxOf (p.row start) number = some (start + (number.toNat - 1)) := by
            rw [muxOf, if_neg hzero, PortSite.row, List.getElem?_range' hlt, Nat.one_mul]
          have hfound : muxRow t.muxes (start + (number.toNat - 1)) =
              .ok (m.descriptor p.ref (start + (number.toNat - 1))) := by
            rw [muxRow, h.muxes_eq, ← hstart, getElem?_muxRows hp hm]
          have hsegment : (m.descriptor p.ref (start + (number.toNat - 1))).hasSegment ⟨segment⟩ = true ↔
              1 ≤ segment ∧ segment ≤ m.segmentCount := by
            simp [MuxDescriptor.hasSegment, MuxDecl.descriptor]
          simp only [hrow, hfound, bind_eq_ok_iff, ensure_eq_ok_iff, hsegment, Except.ok.injEq, exists_eq_left',
            exists_const, hone, true_and, Option.some.injEq]
          rw [eq_comm (b := r)]
          rfl

end Topology.Declares

/-! ## Places of devices -/

/-- The place of a device on a port whose multiplexers are in rows from `start` on. -/
def DeviceDecl.placeOn (d : DeviceDecl) (p : PortSite) (start : Nat) : DevicePlace :=
  ⟨p.controller, p.ref.index, d.route start, d.address⟩

/-- A device as it is placed on the port in row `slot`, whose multiplexers are in rows from `start` on. -/
def DeviceDecl.row (d : DeviceDecl) (p : PortSite) (slot start : Nat) : BoardDevice :=
  { kind := d.device, names := d.names, description := d.description, place := d.placeOn p start, portSlot := slot,
    bus := p.decl.name, refdes := d.refdes, removable := d.removable, isAlias := d.isAlias,
    power := d.power.map fun w => ⟨w.rails, w.phases, w.pmbus, w.multiphase⟩ }

/-- What a device has to meet on its port. -/
structure DeviceDecl.FitsPort (d : DeviceDecl) (p : PortSite) : Prop where
  route : d.RouteFits p
  address : 0x08 ≤ d.address ∧ d.address ≤ 0x77
  /-- No multiplexer on the port has the address. -/
  free : ∀ m ∈ p.decl.muxes, m.address ≠ d.address

/-- Two devices are at one place: on the same port, with the same route and the same address. -/
def DeviceDecl.SharesPlace (cs : List ControllerDecl) (d e : DeviceDecl) : Prop :=
  ∃ p, d.SitsOn cs p ∧ e.SitsOn cs p ∧ d.mux = e.mux ∧ d.segment = e.segment ∧ d.address = e.address

namespace ControllersFit

variable {cs : List ControllerDecl} {d e : DeviceDecl} {p q : PortSite} {i j : Nat}

/-- A device sits on one port only. -/
theorem slot_unique (h : ControllersFit cs) (hp : (portSites cs)[i]? = some p) (hq : (portSites cs)[j]? = some q)
    (hdp : d.SitsOn cs p) (hdq : d.SitsOn cs q) : i = j := by
  -- the search for the port comes to a single slot
  have ht : (Topology.ofControllers cs).Declares cs := ⟨rfl, rfl, rfl⟩
  have hi := (ht.slotOf_eq_ok_iff h d).mpr ⟨p, hp, hdp⟩
  have hj := (ht.slotOf_eq_ok_iff h d).mpr ⟨q, hq, hdq⟩
  exact Except.ok.inj (hi.symm.trans hj)

/-- A port is known by its controller and its index there. -/
theorem slot_eq_of_index_eq (h : ControllersFit cs) (hp : (portSites cs)[i]? = some p)
    (hq : (portSites cs)[j]? = some q) (hc : p.controller = q.controller) (hindex : p.ref.index = q.ref.index) :
    i = j := by
  obtain ⟨c, hcmem, hpc⟩ := mem_portSites.mp (List.mem_of_getElem? hp)
  obtain ⟨b, hbmem, hqb⟩ := mem_portSites.mp (List.mem_of_getElem? hq)
  rw [ControllerDecl.controller_of_mem_sites hpc, ControllerDecl.controller_of_mem_sites hqb,
    Controller.mk.injEq] at hc
  obtain rfl := h.eq_of_number hcmem hbmem hc
  obtain ⟨before, after, hsplit⟩ := List.append_of_mem hcmem
  have hlt := (c.position_lt_iff 256).mpr (h.ports_fit c hcmem)
  have hposition : p.position = q.position := by
    have hbytes := congrArg UInt8.toNat (PortIndex.mk.inj hindex)
    rw [UInt8.toNat_ofNat', UInt8.toNat_ofNat', Nat.mod_eq_of_lt (hlt p hpc), Nat.mod_eq_of_lt (hlt q hqb)] at hbytes
    exact hbytes
  rw [h.slot_eq hsplit hp hpc, h.slot_eq hsplit hq hqb, hposition]

/-- The rows of a port's multiplexers fit a byte. -/
theorem muxCount_take_add_le (h : ControllersFit cs) (hp : (portSites cs)[i]? = some p) :
    muxCount ((portSites cs).take i) + p.decl.muxes.length ≤ 256 :=
  Nat.le_trans (I2cTopology.muxCount_take_add_le hp) h.muxes_fit

end ControllersFit

/-- Routes that fit one port are equal exactly when they are declared alike. -/
theorem DeviceDecl.route_eq_iff {d e : DeviceDecl} {p : PortSite} (hd : d.RouteFits p) (he : e.RouteFits p)
    {start : Nat} (hstart : start + p.decl.muxes.length ≤ 256) :
    d.route start = e.route start ↔ d.mux = e.mux ∧ d.segment = e.segment := by
  have hnumber : ∀ {number : UInt8} {m : MuxDecl}, p.decl.muxes[number.toNat - 1]? = some m →
      (UInt8.ofNat (start + (number.toNat - 1))).toNat = start + (number.toNat - 1) := fun {number m} hm => by
    have hlt := (List.getElem?_eq_some_iff.mp hm).1
    rw [UInt8.toNat_ofNat', Nat.mod_eq_of_lt (by omega)]
  unfold RouteFits at hd he
  unfold route
  cases hdm : d.mux with
  | none =>
    cases hds : d.segment with
    | some _ => simp [hdm, hds] at hd
    | none =>
      cases hem : e.mux with
      | none => cases hes : e.segment <;> simp_all
      | some _ => cases hes : e.segment <;> simp_all
  | some number =>
    cases hds : d.segment with
    | none => simp [hdm, hds] at hd
    | some segment =>
      cases hem : e.mux with
      | none => cases hes : e.segment <;> simp_all
      | some other =>
        cases hes : e.segment with
        | none => simp [hem, hes] at he
        | some otherSegment =>
          simp only [hdm, hds] at hd
          simp only [hem, hes] at he
          obtain ⟨hone, m, hm, -⟩ := hd
          obtain ⟨hone', k, hk, -⟩ := he
          simp only [Option.some.injEq, Route.mk.injEq, MuxId.mk.injEq, SegmentId.mk.injEq]
          refine and_congr_left fun _ => ⟨fun heq => ?_, fun heq => by rw [heq]⟩
          have hbytes := congrArg UInt8.toNat heq
          rw [hnumber hm, hnumber hk] at hbytes
          rw [UInt8.le_iff_toNat_le, UInt8.toNat_one] at hone hone'
          exact UInt8.toNat.inj (by omega)

/-- Two devices are placed at one place exactly when they are declared at one. -/
theorem ControllersFit.placeOn_eq_iff {cs : List ControllerDecl} (h : ControllersFit cs) {d e : DeviceDecl}
    {p q : PortSite} {i j : Nat} (hp : (portSites cs)[i]? = some p) (hq : (portSites cs)[j]? = some q)
    (hdp : d.SitsOn cs p) (heq : e.SitsOn cs q) (hd : d.RouteFits p) (he : e.RouteFits q) :
    d.placeOn p (muxCount ((portSites cs).take i)) = e.placeOn q (muxCount ((portSites cs).take j)) ↔
      d.SharesPlace cs e := by
  simp only [DeviceDecl.placeOn, DevicePlace.mk.injEq]
  constructor
  · rintro ⟨hc, hindex, hroute, haddress⟩
    obtain rfl := h.slot_eq_of_index_eq hp hq hc hindex
    obtain rfl := Option.some.inj (hp.symm.trans hq)
    obtain ⟨hmux, hsegment⟩ := (DeviceDecl.route_eq_iff hd he (h.muxCount_take_add_le hp)).mp hroute
    exact ⟨p, hdp, heq, hmux, hsegment, haddress⟩
  · rintro ⟨r, hdr, her, hmux, hsegment, haddress⟩
    obtain ⟨k, hk⟩ := List.getElem?_of_mem hdr.mem
    obtain rfl := h.slot_unique hp hk hdp hdr
    obtain rfl := h.slot_unique hq hk heq her
    obtain rfl := Option.some.inj (hp.symm.trans hq)
    exact ⟨rfl, rfl, (DeviceDecl.route_eq_iff hd he (h.muxCount_take_add_le hp)).mpr ⟨hmux, hsegment⟩, haddress⟩

namespace Topology

/-- A place is free for a device exactly when it is an alias if another device is there. -/
theorem checkPlace_eq_ok_iff {t : Topology} {d : DeviceDecl} {place : DevicePlace} {u : Unit} :
    t.checkPlace d place = .ok u ↔ ∀ e ∈ t.devices, e.place = place → d.isAlias = true := by
  unfold checkPlace
  cases hfind : t.devices.find? (·.place == place) with
  | none =>
    refine ⟨fun _ e he hplace => ?_, fun _ => rfl⟩
    simpa [hplace] using List.find?_eq_none.mp hfind e he
  | some other =>
    show ensure d.isAlias _ = .ok u ↔ _
    rw [ensure_eq_ok_iff]
    refine ⟨fun h _ _ _ => h, fun h => h other (List.mem_of_find?_eq_some hfind) ?_⟩
    simpa using List.find?_some hfind

/-- A device is placed exactly when it sits on a port that it fits and its place is free. -/
theorem Declares.placeDevice_eq_ok_iff {t : Topology} {cs : List ControllerDecl} (h : t.Declares cs)
    (hf : ControllersFit cs) (d : DeviceDecl) (b : BoardDevice) : t.placeDevice d = .ok b ↔
      ∃ slot p, (portSites cs)[slot]? = some p ∧ d.SitsOn cs p ∧ d.FitsPort p ∧
        (∀ e ∈ t.devices, e.place = d.placeOn p (muxCount ((portSites cs).take slot)) → d.isAlias = true) ∧
        b = d.row p slot (muxCount ((portSites cs).take slot)) := by
  have hport : ∀ {slot : Nat} {p : PortSite}, (portSites cs)[slot]? = some p → ∀ row,
      t.port slot = .ok row ↔ row = p.row (muxCount ((portSites cs).take slot)) := fun {slot p} hp row => by
    rw [h.port_eq_ok_iff, hp]
    simp
  have htaken : ∀ {slot : Nat} {p : PortSite}, (portSites cs)[slot]? = some p →
      muxHasAddress t.muxes (p.row (muxCount ((portSites cs).take slot))).muxes d.address =
        .ok (p.decl.muxes.any (·.address == d.address)) := fun {slot p} hp => by
    rw [h.muxes_eq, PortSite.row, muxHasAddress_eq_ok (map_getElem?_muxRows hp), MuxDecl.any_address_rows]
  have hfree : ∀ p : PortSite, (!p.decl.muxes.any (·.address == d.address)) = true ↔
      ∀ m ∈ p.decl.muxes, m.address ≠ d.address := fun p => by simp
  unfold placeDevice
  simp only [bind_eq_ok_iff, h.slotOf_eq_ok_iff hf]
  constructor
  · rintro ⟨slot, ⟨p, hp, hs⟩, row, hrow, route, hroute, hrest⟩
    obtain rfl := (hport hp row).mp hrow
    obtain ⟨hfits, rfl⟩ := (h.routeOf_eq_ok_iff hp d).mp hroute
    simp [htaken hp, isAssignable_iff, checkPlace_eq_ok_iff] at hrest
    obtain ⟨haddress, hunused, hplace, rfl⟩ := hrest
    exact ⟨slot, p, hp, hs, ⟨hfits, haddress, hunused⟩, hplace, rfl⟩
  · rintro ⟨slot, p, hp, hs, hfits, hplace, rfl⟩
    refine ⟨slot, ⟨p, hp, hs⟩, _, (hport hp _).mpr rfl, _, (h.routeOf_eq_ok_iff hp d).mpr ⟨hfits.route, rfl⟩, ?_⟩
    simp [htaken hp, isAssignable_iff, checkPlace_eq_ok_iff]
    exact ⟨hfits.address, hfits.free, hplace, rfl⟩

end Topology

end I2cTopology
