import I2cTopology.Artifact.Sections
import I2cTopology.Artifact.Tables
import I2cTopology.Proofs.Resolution.Wiring

/-!
# The setup of initiators

The tables of an artifact that sets up initiators hold the controllers of a board that drive a bus, the multiplexers
on their ports and the places of all devices (`BoardTables.BuiltFrom`, `Artifact.builtFrom_of_tables`). So the server
of such tables finds a controller exactly if the document declares it an initiator (`BuiltFrom.find?_initiator`,
`BuiltFrom.find?_target`), and the multiplexers that it knows are well wired (`BuiltFrom.wellWired`).
-/

namespace I2cTopology

/-! ## The section of a mode -/

/-- What a server is told of an initiator. -/
def BoardController.descriptor (c : BoardController) : ControllerDescriptor :=
  ⟨c.controller, .initiator, UInt8.ofNat c.ports.length⟩

namespace BusSection

variable {t : Topology}

/-- The section holds what a server is told of some initiators, and the multiplexers on their ports. -/
structure SetsUp (t : Topology) (cs : List BoardController) (s : BusSection) : Prop where
  mode_eq : s.mode = .initiator
  controllers_eq : s.controllers = cs.map (·.descriptor)
  muxes_eq : s.muxes = cs.flatMap fun c => t.muxesOf c.controller
  ports_lt : ∀ c ∈ cs, c.ports.length < 256

/-- A port changes nothing about the controllers and multiplexers of a section. -/
theorem addPort_keeps {controller : Controller} {acc next : Scope × BusSection} {slot : Nat}
    (h : addPort t controller acc slot = .ok next) :
    next.2.mode = acc.2.mode ∧ next.2.controllers = acc.2.controllers ∧ next.2.muxes = acc.2.muxes := by
  unfold addPort at h
  cases hp : t.ports[slot]? with
  | none => simp [hp] at h
  | some p =>
    simp [hp] at h
    obtain ⟨scope, -, rfl⟩ := h
    exact ⟨rfl, rfl, rfl⟩

theorem foldlM_addPort_keeps {controller : Controller} {acc next : Scope × BusSection} {slots : List Nat}
    (h : slots.foldlM (addPort t controller) acc = .ok next) :
    next.2.mode = acc.2.mode ∧ next.2.controllers = acc.2.controllers ∧ next.2.muxes = acc.2.muxes := by
  refine foldlM_keeps (fun _ (later : Scope × BusSection) => later.2.mode = acc.2.mode ∧
    later.2.controllers = acc.2.controllers ∧ later.2.muxes = acc.2.muxes) ?_ [] ⟨rfl, rfl, rfl⟩ h
  rintro - before slot after ⟨hmode, hcontrollers, hmuxes⟩ hstep
  obtain ⟨hmode', hcontrollers', hmuxes'⟩ := addPort_keeps hstep
  exact ⟨hmode'.trans hmode, hcontrollers'.trans hcontrollers, hmuxes'.trans hmuxes⟩

theorem addController_keeps {cs : List BoardController} {c : BoardController} {acc next : Scope × BusSection}
    (hacc : acc.2.SetsUp t cs) (h : addController t acc c = .ok next) : next.2.SetsUp t (cs ++ [c]) := by
  simp [addController] at h
  obtain ⟨hlt, scope, s, hports, rfl⟩ := h
  obtain ⟨hmode, hcontrollers, hmuxes⟩ := foldlM_addPort_keeps hports
  simp only at hmode hcontrollers hmuxes
  rw [if_pos hacc.mode_eq]
  refine ⟨hmode.trans hacc.mode_eq, ?_, ?_, ?_⟩
  · simp only [hcontrollers, hacc.controllers_eq, hacc.mode_eq, List.map_append]
    rfl
  · simp only [hmuxes, hacc.muxes_eq, List.flatMap_append, List.flatMap_singleton]
  · intro b hb
    rcases List.mem_append.mp hb with hb | hb
    · exact hacc.ports_lt b hb
    · obtain rfl := List.mem_singleton.mp hb
      exact hlt

theorem setsUp_ofTopology {s : BusSection} (h : ofTopology t .initiator false = .ok s) :
    s.SetsUp t (t.controllersIn .initiator) := by
  simp [ofTopology] at h
  obtain ⟨scope, hwalk⟩ := h
  have hstart : ({ mode := .initiator } : BusSection).SetsUp t [] := ⟨rfl, rfl, rfl, by simp⟩
  exact foldlM_keeps (fun before (acc : Scope × BusSection) => acc.2.SetsUp t before) addController_keeps [] hstart
    hwalk

end BusSection

/-! ## The tables of an artifact -/

/-- The tables hold the initiators of a board, the multiplexers on their ports and the places of all devices. -/
structure BoardTables.BuiltFrom (tables : BoardTables) (t : Topology) : Prop where
  controllers_eq : tables.controllers = (t.controllersIn .initiator).map (·.descriptor)
  muxes_eq : tables.muxes = (t.controllersIn .initiator).flatMap fun c => t.muxesOf c.controller
  ports_lt : ∀ c ∈ t.controllersIn .initiator, c.ports.length < 256
  devices_eq : tables.devices = t.devices.map (·.place)

theorem Artifact.builtFrom_of_tables {t : Topology} {dispositions : List Disposition} {o : EmitOptions} {a : Artifact}
    (hinitiator : .initiator ∈ dispositions) (hfull : o.standalone = false)
    (ha : Artifact.ofTopology t dispositions o = .ok a) {registry : CheckRegistry} {tables : BoardTables}
    (htables : a.tables registry = .ok tables) : tables.BuiltFrom t := by
  obtain ⟨-, -, -, -, hdevices, hbus, -⟩ := ofTopology_eq_ok_iff.mp ha
  simp [busPart, hinitiator, hfull] at hbus
  obtain ⟨s, hsection, hs⟩ := hbus
  have hsetup := BusSection.setsUp_ofTopology hsection
  simp [Artifact.tables, ← hs, hdevices, hfull] at htables
  obtain ⟨validation, -, rfl⟩ := htables
  refine ⟨hsetup.controllers_eq, hsetup.muxes_eq, hsetup.ports_lt, ?_⟩
  rfl

/-- The tables are those of a full artifact of the board that sets up initiators. -/
def BoardTables.GeneratedFrom (tables : BoardTables) (t : Topology) : Prop :=
  ∃ (dispositions : List Disposition) (o : EmitOptions) (a : Artifact) (registry : CheckRegistry),
    .initiator ∈ dispositions ∧ o.standalone = false ∧ Artifact.ofTopology t dispositions o = .ok a ∧
      a.tables registry = .ok tables

theorem BoardTables.GeneratedFrom.builtFrom {tables : BoardTables} {t : Topology} (h : tables.GeneratedFrom t) :
    tables.BuiltFrom t := by
  obtain ⟨dispositions, o, a, registry, hinitiator, hfull, ha, htables⟩ := h
  exact Artifact.builtFrom_of_tables hinitiator hfull ha htables

/-- There is a handle for each device, in their order. -/
theorem BoardTables.BuiltFrom.handles_eq {tables : BoardTables} {t : Topology} (h : tables.BuiltFrom t)
    (owner : TaskId) : tables.handles owner = t.devices.map fun b => b.place.bind owner := by
  rw [handles, h.devices_eq, List.map_map]
  rfl

/-! ## What a server finds in the tables -/

/-- Each row of the table of controllers is that of a declared one. -/
theorem exists_of_mem_controllerRows {cs : List ControllerDecl} {start : Nat} {row : BoardController}
    (h : row ∈ controllerRows start cs) : ∃ c ∈ cs, ∃ first, row = c.row first := by
  induction cs generalizing start with
  | nil => cases h
  | cons c cs ih =>
    rw [controllerRows, List.mem_cons] at h
    rcases h with rfl | h
    · exact ⟨c, List.mem_cons_self, start, rfl⟩
    · obtain ⟨b, hb, hrow⟩ := ih h
      exact ⟨b, List.mem_cons_of_mem _ hb, hrow⟩

theorem Topology.Declares.nodup_controllersIn {t : Topology} {cs : List ControllerDecl} (h : t.Declares cs)
    (hf : ControllersFit cs) (mode : ControllerMode) : ((t.controllersIn mode).map (·.controller)).Nodup :=
  (h.nodup_controllers hf).sublist (List.filter_sublist.map _)

namespace BoardTables.BuiltFrom

variable {tables : BoardTables} {t : Topology} {cs : List ControllerDecl} {c : ControllerDecl}

theorem mem_muxes_iff (h : tables.BuiltFrom t) {m : MuxDescriptor} :
    m ∈ tables.muxes ↔ m ∈ t.muxes ∧ ∃ row ∈ t.controllersIn .initiator, m.controller = row.controller := by
  simp only [h.muxes_eq, List.mem_flatMap, Topology.muxesOf, List.mem_filter, beq_iff_eq]
  constructor
  · rintro ⟨row, hrow, hm, hc⟩
    exact ⟨hm, row, hrow, hc⟩
  · rintro ⟨hm, row, hrow, hc⟩
    exact ⟨row, hrow, hm, hc⟩

theorem offMuxes (h : tables.BuiltFrom t) {q : DevicePlace} (hq : q.OffMuxes t.muxes) : q.OffMuxes tables.muxes :=
  fun m hm hon => hq m (h.mem_muxes_iff.mp hm).1 hon

variable (h : tables.BuiltFrom t) (ht : t.Declares cs) (hf : ControllersFit cs)
include h ht hf

/-- An initiator is in the table with its ports, which are few enough to be counted by a byte. -/
theorem find?_initiator (hc : c ∈ cs) (hmode : c.target = false) :
    c.ports.size < 256 ∧ tables.controllers.find? (·.controller == ⟨c.controller⟩) =
      some ⟨⟨c.controller⟩, .initiator, UInt8.ofNat c.ports.size⟩ := by
  obtain ⟨before, after, hsplit⟩ := List.append_of_mem hc
  have hrow : c.row (0 + (portSites before).length) ∈ t.controllersIn .initiator := by
    refine List.mem_filter.mpr ⟨?_, ?_⟩
    · rw [ht.controllers_eq, hsplit]
      exact mem_controllerRows 0 before after c
    · simp [ControllerDecl.row, hmode]
  have hports : (c.row (0 + (portSites before).length)).ports.length = c.ports.size := List.length_range'
  have hlt := h.ports_lt _ hrow
  rw [hports] at hlt
  have hdescriptor : (c.row (0 + (portSites before).length)).descriptor =
      ⟨⟨c.controller⟩, .initiator, UInt8.ofNat c.ports.size⟩ := by
    rw [BoardController.descriptor, hports]
    rfl
  have hn : (tables.controllers.map (·.controller)).Nodup := by
    rw [h.controllers_eq, List.map_map]
    exact ht.nodup_controllersIn hf .initiator
  refine ⟨hlt, (KeyedList.find?_eq_some_iff_of_nodup (·.controller) (by simp) hn).mpr ⟨?_, rfl⟩⟩
  rw [h.controllers_eq, ← hdescriptor]
  exact List.mem_map_of_mem hrow

/-- A controller that is declared a target is not in the table. -/
theorem find?_target (hc : c ∈ cs) (hmode : c.target = true) :
    tables.controllers.find? (·.controller == ⟨c.controller⟩) = none := by
  refine List.find?_eq_none.mpr fun d hd => ?_
  rw [h.controllers_eq] at hd
  obtain ⟨row, hrow, rfl⟩ := List.mem_map.mp hd
  obtain ⟨hmem, hinitiator⟩ := List.mem_filter.mp hrow
  rw [ht.controllers_eq] at hmem
  obtain ⟨b, hb, first, rfl⟩ := exists_of_mem_controllerRows hmem
  intro hsame
  have hnumber : b.controller = c.controller := by
    simpa [BoardController.descriptor, ControllerDecl.row] using hsame
  obtain rfl := hf.eq_of_number hb hc hnumber
  simp [ControllerDecl.row, hmode] at hinitiator

/-- A route on a bus of an initiator leads over a multiplexer in the table. -/
theorem wiredOn (hc : c ∈ cs) (hmode : c.target = false) {p : PortIndex} {route : Route}
    (hroute : route.WiredOn t.muxes ⟨c.controller⟩ p) : route.WiredOn tables.muxes ⟨c.controller⟩ p := by
  obtain ⟨m, hm, hon, hid, hsegment⟩ := hroute
  obtain ⟨-, hfind⟩ := h.find?_initiator ht hf hc hmode
  have hmem := List.mem_of_find?_eq_some hfind
  rw [h.controllers_eq] at hmem
  obtain ⟨row, hrow, hdescriptor⟩ := List.mem_map.mp hmem
  refine ⟨m, h.mem_muxes_iff.mpr ⟨hm, row, hrow, ?_⟩, hon, hid, hsegment⟩
  rw [(MuxDescriptor.isOn_iff.mp hon).1]
  exact (congrArg ControllerDescriptor.controller hdescriptor).symm

theorem wellWired : WellWired tables.muxes := by
  have hall := hf.wellWired
  rw [← ht.muxes_eq] at hall
  -- the multiplexers of two controllers have none in common
  have hn : tables.muxes.Nodup := by
    rw [h.muxes_eq, List.nodup_flatMap]
    refine ⟨fun row _ => (List.Nodup.of_map _ hall.ids).filter _, ?_⟩
    refine (List.pairwise_map.mp (ht.nodup_controllersIn hf .initiator)).imp fun {a b} hne m ha hb => hne ?_
    have hma : m.controller = a.controller := by simpa using (List.mem_filter.mp ha).2
    have hmb : m.controller = b.controller := by simpa using (List.mem_filter.mp hb).2
    exact hma.symm.trans hmb
  have hsub : ∀ m ∈ tables.muxes, m ∈ t.muxes := fun m hm => (h.mem_muxes_iff.mp hm).1
  refine ⟨?_, ?_, fun m hm => hall.segments m (hsub m hm)⟩
  · exact hn.map_on fun a ha b hb => List.inj_on_of_nodup_map hall.ids (hsub a ha) (hsub b hb)
  · exact hn.map_on fun a ha b hb => List.inj_on_of_nodup_map hall.addresses (hsub a ha) (hsub b hb)

end BoardTables.BuiltFrom

/-! ## Devices of initiators and of targets -/

/-- A device sits on a controller that is declared a target. -/
def DeviceDecl.OnTarget (cs : List ControllerDecl) (d : DeviceDecl) : Prop :=
  ∃ c ∈ cs, c.target = true ∧ ∃ p ∈ c.sites, d.SitsOn cs p

/-- A device that sits on no target is on a port of an initiator. -/
theorem DeviceDecl.PlacedAs.exists_initiator {cs : List ControllerDecl} {d : DeviceDecl} {b : BoardDevice}
    (h : d.PlacedAs cs b) (hon : ¬d.OnTarget cs) : ∃ c ∈ cs, c.target = false ∧ ∃ p ∈ c.sites,
      b.place.controller = ⟨c.controller⟩ ∧ b.place.port = ⟨UInt8.ofNat p.position⟩ := by
  obtain ⟨c, hc, p, hp, hs, hcontroller, hport⟩ := h.exists_site
  refine ⟨c, hc, ?_, p, hp, hcontroller, hport⟩
  rw [← Bool.not_eq_true]
  exact fun htarget => hon ⟨c, hc, htarget, p, hp, hs⟩

namespace BoardTables.BuiltFrom

variable {tables : BoardTables} {t : Topology} {cs : List ControllerDecl} {d : DeviceDecl} {b : BoardDevice}
  (h : tables.BuiltFrom t) (ht : t.Declares cs) (hf : ControllersFit cs) (hd : d.PlacedAs cs b)
include h ht hf hd

theorem find?_of_onTarget (hon : d.OnTarget cs) :
    tables.controllers.find? (·.controller == b.place.controller) = none := by
  obtain ⟨c, hc, htarget, p, hp, hs⟩ := hon
  rw [hd.controller_eq hf hp hs]
  exact h.find?_target ht hf hc htarget

/-- The table of controllers has the port of a device that sits on no target. -/
theorem on_initiator (hon : ¬d.OnTarget cs) : ∃ c,
    tables.controllers.find? (·.controller == b.place.controller) = some c ∧ c.mode = .initiator ∧
      c.hasPort b.place.port = true := by
  obtain ⟨c, hc, hmode, p, hp, hcontroller, hport⟩ := hd.exists_initiator hon
  obtain ⟨hsize, hfind⟩ := h.find?_initiator ht hf hc hmode
  refine ⟨_, hcontroller ▸ hfind, rfl, ?_⟩
  have hposition := (c.position_lt_iff c.ports.size).mpr (Nat.le_refl _) p hp
  rw [hport, ControllerDescriptor.hasPort, decide_eq_true_iff, UInt8.lt_iff_toNat_lt, UInt8.toNat_ofNat',
    UInt8.toNat_ofNat']
  omega

/-- The table of multiplexers has the way to a device that sits on no target. -/
theorem route_wired (hon : ¬d.OnTarget cs) {route : Route} (hroute : b.place.route = some route) :
    route.WiredOn tables.muxes b.place.controller b.place.port := by
  obtain ⟨c, hc, hmode, p, hp, hcontroller, -⟩ := hd.exists_initiator hon
  have hwired := hd.wiredOn hroute
  rw [← ht.muxes_eq, hcontroller] at hwired
  rw [hcontroller]
  exact h.wiredOn ht hf hc hmode hwired

end BoardTables.BuiltFrom

end I2cTopology
