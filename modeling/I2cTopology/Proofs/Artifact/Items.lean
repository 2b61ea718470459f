import I2cTopology.Proofs.Artifact.Demands
import I2cTopology.Proofs.Resolution.Rails
import I2cTopology.Proofs.Resolution.SensorIds
import Mathlib.Data.List.Nodup

/-!
# The items of a document

`Item.NamedIn` says which items of a document an artifact has identifiers for, in terms of the declarations alone. The
artifact of a resolved document demands an identifier for each of them, once, and for nothing else
(`Document.mem_items_iff`, `Document.nodup_items`), and it demands that the ports of the controllers that it sets up
are countable (`BusSection.demands_eq`).
-/

namespace I2cTopology

/-! ## The keys of the tables -/

namespace Topology

/-- The tables have the kinds, the buses and the rails of some devices as keys, and no others. -/
structure Keyed (t : Topology) (cs : List ControllerDecl) (ds : List DeviceDecl) : Prop where
  kinds : ∀ kind, kind ∈ t.groups.keys ↔ ∃ e ∈ ds, e.device = kind
  buses : ∀ kind bus, bus ∈ (t.group kind).byBus.keys ↔
    ∃ e ∈ ds, e.device = kind ∧ ∃ p, e.SitsOn cs p ∧ p.decl.name = some bus
  rails : ∀ rail, rail ∈ t.rails.keys ↔ rail ≠ "" ∧ ∃ e ∈ ds, ∃ w, e.power = some w ∧ rail ∈ w.rails

end Topology

namespace Document

variable {d : Document} {t : Topology}

theorem keyed_of_resolve (h : d.resolve = .ok t) : t.Keyed d.controllers d.devices := by
  refine ⟨fun kind => ?_, fun kind bus => ?_, fun rail => ?_⟩
  · rw [keys_groups_of_resolve h, kinds, List.mem_eraseDups, List.mem_map]
  · rw [mem_buses_iff h]
    simp only [onBus_iff h, OnBus]
    exact KeyedList.exists_getElem?_iff
  · rw [keys_rails_of_resolve h, railNames, List.mem_eraseDups, List.mem_filter, List.mem_flatMap, decide_eq_true_iff,
      and_comm]
    simp only [DeviceDecl.mem_railNames]

theorem binds_of_resolve (h : d.resolve = .ok t) : t.sensors.Binds d.devices := by
  refine knows_of_resolve h (fun ds t => t.sensors.Binds ds) (Topology.binds_ofControllers d.controllers) ?_
  intro ds t e u hcovers hbinds hu
  obtain ⟨b, group, sensors, rails, -, -, hsensors, -, rfl⟩ := Topology.addDevice_eq_ok_iff.mp hu
  rw [hcovers.length_devices] at hsensors
  exact hbinds.add hsensors

end Document

theorem Leads.mem_keys_iff {known : OrderedMap String Nat} {kind : String} {identifiers : DeviceDecl → List String}
    {ds : List DeviceDecl} (h : Leads known kind identifiers ds) {key : String} :
    key ∈ known.keys ↔ ∃ e ∈ ds, e.device = kind ∧ key ∈ identifiers e := by
  have hfound : key ∈ known.keys ↔ ∃ row, known.get? key = some row := by
    rw [← not_iff_not, ← OrderedMap.get?_eq_none_iff, Option.eq_none_iff_forall_ne_some, not_exists]
  simp only [hfound, h key]
  exact KeyedList.exists_getElem?_iff

/-! ## Controllers -/

/-- The mode in which a declared controller operates. -/
def ControllerDecl.mode (c : ControllerDecl) : ControllerMode := if c.target then .target else .initiator

/-- The ports of a controller, which get a setup function each. -/
def ControllerDecl.items (c : ControllerDecl) : List Item := c.ports.keys.map fun key => .port ⟨c.controller⟩ key

/-- What the setup of a controller demands. -/
def ControllerDecl.demands (c : ControllerDecl) : List Demand :=
  .counted ⟨c.controller⟩ c.ports.size :: c.items.map .named

/-- The controllers of a document that operate in a mode. -/
def Document.controllersIn (d : Document) (mode : ControllerMode) : List ControllerDecl :=
  d.controllers.filter fun c => c.mode == mode

namespace BusSection

variable {d : Document} {t : Topology}

theorem controllerDemands_row (h : t.Declares d.controllers) {before after : List ControllerDecl} {c : ControllerDecl}
    (hsplit : d.controllers = before ++ c :: after) :
    controllerDemands t (c.row (portSites before).length) = c.demands := by
  have hslot : portItems t ⟨c.controller⟩ = fun slot =>
      ((portSites d.controllers)[slot]?).toList.map fun p => .port ⟨c.controller⟩ p.key := by
    funext slot
    rw [portItems, h.ports_eq, getElem?_portRows]
    cases (portSites d.controllers)[slot]? <;> rfl
  have hsites := congrArg (List.flatMap fun p => p.toList.map fun p : PortSite => Item.port ⟨c.controller⟩ p.key)
    (map_getElem?_portSites hsplit)
  rw [List.flatMap_map, List.flatMap_map] at hsites
  have hitems : (c.row (portSites before).length).ports.flatMap (portItems t ⟨c.controller⟩) = c.items := by
    rw [hslot, ControllerDecl.items, ← c.map_key_sites, List.map_map, List.map_eq_flatMap]
    exact hsites
  have hcount : (c.row (portSites before).length).ports.length = c.ports.size := List.length_range'
  show Demand.counted ⟨c.controller⟩ _ :: List.map _ (List.flatMap (portItems t ⟨c.controller⟩) _) = _
  rw [hcount, hitems]
  rfl

/-- What the setup of the controllers of a mode demands, in terms of their declarations. -/
theorem demands_eq (h : t.Declares d.controllers) (mode : ControllerMode) :
    demands t mode = (if mode = .target then [.single (d.controllersIn mode).length] else []) ++
      (d.controllersIn mode).flatMap (·.demands) := by
  -- the rows have the modes and the demands of the declarations
  have hrows : ∀ rest before, d.controllers = before ++ rest →
      (controllerRows (portSites before).length rest).map (fun r => (r.mode, controllerDemands t r)) =
        rest.map fun c => (c.mode, c.demands) := by
    intro rest
    induction rest with
    | nil =>
      intro _ _
      rfl
    | cons c rest ih =>
      intro before hsplit
      have hrest := ih (before ++ [c]) (by rw [hsplit, List.append_assoc, List.singleton_append])
      have hlength : (portSites (before ++ [c])).length = (portSites before).length + c.ports.size := by
        rw [portSites_append, List.length_append, ← c.length_sites]
        simp [portSites]
      rw [hlength] at hrest
      rw [controllerRows, List.map_cons, List.map_cons, hrest, controllerDemands_row h hsplit]
      rfl
  have hin := congrArg (List.filter fun r => r.1 == mode) (hrows d.controllers [] rfl)
  rw [List.filter_map, List.filter_map, show controllerRows (portSites []).length d.controllers = t.controllers from
    h.controllers_eq.symm] at hin
  have hlength := congrArg List.length hin
  rw [List.length_map, List.length_map] at hlength
  have hdemands := congrArg (List.flatMap Prod.snd) hin
  rw [List.flatMap_map, List.flatMap_map] at hdemands
  exact congrArg₂ (fun (n : Nat) ds => (if mode = .target then [Demand.single n] else []) ++ ds) hlength hdemands

end BusSection

/-! ## Named items -/

/-- The controllers whose setup is a part of an artifact. -/
def Document.setUp (d : Document) (dispositions : List Disposition) : List ControllerDecl :=
  if .initiator ∈ dispositions then d.controllersIn .initiator
  else if .target ∈ dispositions then d.controllersIn .target else []

/-- An artifact with some parts has an identifier for an item of a document. -/
def Item.NamedIn (d : Document) (dispositions : List Disposition) : Item → Prop
  | port controller key => ∃ c ∈ d.setUp dispositions, controller = ⟨c.controller⟩ ∧ key ∈ c.ports.keys
  | kind k => .devices ∈ dispositions ∧ ∃ e ∈ d.devices, e.device = k
  | name k n => .devices ∈ dispositions ∧ ∃ e ∈ d.devices, e.device = k ∧ n ∈ e.names
  | refdes k r => .devices ∈ dispositions ∧ ∃ e ∈ d.devices, e.device = k ∧ e.refdes = some r
  | bus k b => .devices ∈ dispositions ∧
    ∃ e ∈ d.devices, e.device = k ∧ ∃ p, e.SitsOn d.controllers p ∧ p.decl.name = some b
  | rail r => .devices ∈ dispositions ∧ r ≠ "" ∧ ∃ e ∈ d.devices, ∃ w, e.power = some w ∧ r ∈ w.rails
  | sensors k => .sensors ∈ dispositions ∧ ∃ e ∈ d.devices, e.device = k ∧ 0 < e.sensors.total
  | sensorName k n => .sensors ∈ dispositions ∧ ∃ e ∈ d.devices, e.device = k ∧ 0 < e.sensors.total ∧ n ∈ e.names

/-- The driver kind that an item belongs to, if it belongs to one. -/
def Item.kind? : Item → Option String
  | port _ _ | rail _ => none
  | kind k | name k _ | refdes k _ | bus k _ | sensors k | sensorName k _ => some k

/-- A property that an empty group lacks holds of the entry of a kind exactly if it holds of its group. -/
theorem Topology.exists_group_iff (t : Topology) (kind : String) {P : DeviceGroup → Prop} (hempty : ¬P {}) :
    (∃ e ∈ t.groups.entries, e.1 = kind ∧ P e.2) ↔ P (t.group kind) := by
  rw [group]
  constructor
  · rintro ⟨⟨_, g⟩, he, rfl, hP⟩
    rwa [OrderedMap.mem_entries_iff.mp he]
  · intro hP
    cases hg : t.groups.get? kind with
    | none =>
      rw [hg] at hP
      exact absurd hP hempty
    | some g =>
      rw [hg] at hP
      exact ⟨(kind, g), OrderedMap.mem_entries_iff.mpr hg, rfl, hP⟩

/-- The kinds whose groups pass a test that an empty group fails. -/
theorem Topology.mem_kinds_filter_iff (t : Topology) {p : DeviceGroup → Bool} (hempty : p {} = false) {kind : String} :
    kind ∈ (t.groups.entries.filter fun e => p e.2).map Prod.fst ↔ p (t.group kind) = true := by
  rw [← t.exists_group_iff kind (P := fun g => p g = true) (by simp [hempty]), List.mem_map]
  refine exists_congr fun e => ?_
  rw [List.mem_filter, and_assoc]
  exact and_congr_right fun _ => and_comm

namespace AccessorSection

variable {d : Document} {t : Topology}

/-- Accessors are made for the declared kinds, for the names, designators and buses of each, and for the rails. -/
theorem mem_accessorItems_iff (h : d.resolve = .ok t) {a : Item} :
    a ∈ accessorItems t ↔ a.NamedIn d [.devices] := by
  have hkeyed := Document.keyed_of_resolve h
  have hcovers := Document.covers_of_resolve h
  have hempty : ∀ {ν : Type} (key : String), key ∉ (({} : OrderedMap String ν)).keys := fun _ h => by cases h
  have hgroup : ∀ {ν : Type} (part : DeviceGroup → OrderedMap String ν) (k key : String), part {} = {} →
      ((∃ e ∈ t.groups.entries, key ∈ (part e.2).keys ∧ e.1 = k) ↔ key ∈ (part (t.group k)).keys) := by
    intro ν part k key hpart
    have hnone : ¬key ∈ (part {}).keys := by
      rw [hpart]
      exact hempty key
    rw [← t.exists_group_iff k (P := fun g => key ∈ (part g).keys) hnone]
    simp only [and_comm]
  have hmem : ∀ a, a ∈ accessorItems t ↔ (∃ e ∈ t.groups.entries, a = .kind e.1 ∨
      (∃ n ∈ e.2.byName.keys, a = .name e.1 n) ∨ (∃ r ∈ e.2.byRefdes.keys, a = .refdes e.1 r) ∨
      ∃ b ∈ e.2.byBus.keys, a = .bus e.1 b) ∨
      ∃ r ∈ t.rails.keys, a = .rail r := by
    intro a
    simp only [accessorItems, kindItems, List.mem_append, List.mem_flatMap, List.mem_cons, List.mem_map, eq_comm]
  rw [hmem]
  cases a with
  | port c key => simp [Item.NamedIn, Document.setUp]
  | kind k =>
    have hkind := hkeyed.kinds k
    rw [OrderedMap.keys, List.mem_map] at hkind
    simpa [Item.NamedIn, eq_comm] using hkind
  | name k n =>
    have hname := hgroup (·.byName) k n rfl
    rw [(hcovers.names k).mem_keys_iff] at hname
    simpa [Item.NamedIn, eq_comm] using hname
  | refdes k r =>
    have hrefdes := hgroup (·.byRefdes) k r rfl
    rw [(hcovers.refdes k).mem_keys_iff] at hrefdes
    simpa [Item.NamedIn, eq_comm] using hrefdes
  | bus k b =>
    have hbus := hgroup (·.byBus) k b rfl
    rw [hkeyed.buses k b] at hbus
    simpa [Item.NamedIn, eq_comm] using hbus
  | rail r => simpa [Item.NamedIn] using hkeyed.rails r
  | sensors k => simp [Item.NamedIn]
  | sensorName k n => simp [Item.NamedIn]

theorem nodup_kindItems (entry : String × DeviceGroup) : (kindItems entry).Nodup := by
  have hkeys : ∀ {ν : Type} (m : OrderedMap String ν) (item : String → Item), Function.Injective item →
      (m.keys.map item).Nodup := fun m item hitem => (List.nodup_map_iff hitem).mpr m.nodup_keys
  refine List.nodup_cons.mpr ⟨by simp, ?_⟩
  refine List.Nodup.append (hkeys _ _ fun _ _ e => by simpa using e) ?_ (by simp [List.disjoint_left])
  exact List.Nodup.append (hkeys _ _ fun _ _ e => by simpa using e) (hkeys _ _ fun _ _ e => by simpa using e)
    (by simp [List.disjoint_left])

theorem nodup_accessorItems (t : Topology) : (accessorItems t).Nodup := by
  have hkind : ∀ e ∈ t.groups.entries, ∀ a ∈ kindItems e, a.kind? = some e.1 := by
    intro e _ a ha
    simp only [kindItems, List.mem_cons, List.mem_append, List.mem_map] at ha
    rcases ha with rfl | ⟨_, -, rfl⟩ | ⟨_, -, rfl⟩ | ⟨_, -, rfl⟩ <;> rfl
  have hkeys := (List.nodup_map_iff fun _ _ => Option.some.inj).mpr t.groups.nodup_keys
  rw [List.map_map] at hkeys
  refine List.Nodup.append (KeyedList.nodup_flatMap_of_tag hkeys (fun e _ => nodup_kindItems e) Item.kind? hkind) ?_ ?_
  · exact (List.nodup_map_iff fun _ _ e => by simpa using e).mpr t.rails.nodup_keys
  · intro a ha hrail
    obtain ⟨e, he, hmem⟩ := List.mem_flatMap.mp ha
    obtain ⟨r, -, rfl⟩ := List.mem_map.mp hrail
    cases hkind e he _ hmem

end AccessorSection

namespace SensorSection

variable {d : Document} {t : Topology}

theorem isEmpty_ranges_iff (h : d.resolve = .ok t) {row : Nat} {e : DeviceDecl} (he : d.devices[row]? = some e) :
    (t.sensors.ranges row).isEmpty = true ↔ e.sensors.total = 0 := by
  obtain ⟨hrow, rfl⟩ := List.getElem?_eq_some_iff.mp he
  obtain ⟨hlength, hruns⟩ := List.forall₂_iff_get.mp (Document.binds_of_resolve h).ranges
  have hcounts := congrArg List.isEmpty (hruns row hrow (hlength ▸ hrow))
  have hranges : t.sensors.ranges row = (t.sensors.bindings.get ⟨row, hlength ▸ hrow⟩).ranges := by
    rw [SensorTable.ranges, List.getElem?_eq_getElem (hlength ▸ hrow)]
    rfl
  rw [List.isEmpty_map, ← hranges] at hcounts
  rw [hcounts]
  simp [SensorDecl.counts, SensorDecl.total, List.filter_eq_nil_iff, SensorKind.all]

/-- The rows of the devices of a kind that have sensors. -/
theorem mem_sensing_iff (h : d.resolve = .ok t) {k : String} {row : Nat} : row ∈ sensing t (t.group k) ↔
    ∃ e, d.devices[row]? = some e ∧ e.device = k ∧ 0 < e.sensors.total := by
  have hcovers := Document.covers_of_resolve h
  rw [sensing, List.mem_filter, (Document.grouped_of_resolve h).devices, List.mem_findIdxs_iff_exists_getElem_pos]
  constructor
  · rintro ⟨⟨hrow, hkind⟩, hranges⟩
    obtain ⟨e, he, slot, p, -, -, -, hb⟩ := hcovers.exists_placedAs (List.getElem?_eq_getElem hrow)
    refine ⟨e, he, ?_, ?_⟩
    · rw [hb] at hkind
      exact beq_iff_eq.mp hkind
    · rw [Nat.pos_iff_ne_zero, ne_eq, ← isEmpty_ranges_iff h he]
      simpa using hranges
  · rintro ⟨e, he, rfl, hsensors⟩
    obtain ⟨_, hb, slot, p, -, -, -, rfl⟩ := hcovers.placed row e he
    obtain ⟨hrow, hb⟩ := List.getElem?_eq_some_iff.mp hb
    refine ⟨⟨hrow, by rw [hb]; exact beq_iff_eq.mpr rfl⟩, ?_⟩
    rw [Nat.pos_iff_ne_zero, ne_eq, ← isEmpty_ranges_iff h he] at hsensors
    simpa using hsensors

theorem instanceItems_eq (h : d.resolve = .ok t) {row : Nat} {e : DeviceDecl} (he : d.devices[row]? = some e)
    (k : String) : instanceItems t k row = e.names.map (.sensorName k) := by
  obtain ⟨_, hb, slot, p, -, -, -, rfl⟩ := (Document.covers_of_resolve h).placed row e he
  rw [instanceItems, hb, Option.toList_some, List.flatMap_singleton]
  rfl

theorem mem_kindItems_iff {entry : String × DeviceGroup} {a : Item} : a ∈ kindItems t entry ↔
    (a = .sensors entry.1 ∧ ∃ row, row ∈ sensing t entry.2) ∨
      ∃ row ∈ sensing t entry.2, a ∈ instanceItems t entry.1 row := by
  unfold kindItems
  rw [← List.isEmpty_eq_false_iff_exists_mem]
  split
  · rename_i hnone
    rw [List.isEmpty_iff] at hnone
    simp [hnone]
  · rename_i hsome
    simp [hsome]

/-- Sensor ids are listed for the kinds of the devices that have sensors, and for the names of these devices. -/
theorem mem_sensorItems_iff (h : d.resolve = .ok t) {a : Item} : a ∈ sensorItems t ↔ a.NamedIn d [.sensors] := by
  have hmem : ∀ {a}, a ∈ sensorItems t ↔ ∃ e ∈ t.groups.entries,
      (a = .sensors e.1 ∧ ∃ row, row ∈ sensing t e.2) ∨ ∃ row ∈ sensing t e.2, a ∈ instanceItems t e.1 row := by
    simp only [sensorItems, List.mem_flatMap, mem_kindItems_iff, implies_true]
  have hhome : ∀ {a}, a ∈ sensorItems t → a.home = .sensors ∨ ∃ k, a.home = .sensorNames k := by
    intro a ha
    obtain ⟨e, -, hitem⟩ := List.mem_flatMap.mp ha
    exact (home_of_mem_kindItems hitem).imp_right fun h => ⟨e.1, h⟩
  cases a with
  | sensors k =>
    have hgroup := t.exists_group_iff k (P := fun g => ∃ row, row ∈ sensing t g) (by simp [sensing])
    simp only [mem_sensing_iff h, KeyedList.exists_getElem?_iff] at hgroup
    have hnoInstance : ∀ k' row, Item.sensors k ∉ instanceItems t k' row := fun k' row hi => by
      cases home_of_mem_instanceItems hi
    rw [hmem]
    simpa [Item.NamedIn, hnoInstance, eq_comm, and_comm] using hgroup
  | sensorName k n =>
    have hgroup := t.exists_group_iff k (P := fun g => ∃ row ∈ sensing t g, Item.sensorName k n ∈ instanceItems t k row)
      (by simp [sensing])
    have hrow : ∀ row, row ∈ sensing t (t.group k) ∧ Item.sensorName k n ∈ instanceItems t k row ↔
        ∃ e, d.devices[row]? = some e ∧ e.device = k ∧ 0 < e.sensors.total ∧ n ∈ e.names := by
      intro row
      rw [mem_sensing_iff h]
      constructor
      · rintro ⟨⟨e, he, hkind, htotal⟩, hi⟩
        rw [instanceItems_eq h he] at hi
        exact ⟨e, he, hkind, htotal, by simpa using hi⟩
      · rintro ⟨e, he, hkind, htotal, hn⟩
        rw [instanceItems_eq h he]
        exact ⟨⟨e, he, hkind, htotal⟩, List.mem_map_of_mem hn⟩
    have hkind : ∀ {k' row}, Item.sensorName k n ∈ instanceItems t k' row → k = k' := fun hi => by
      simpa [Item.home] using home_of_mem_instanceItems hi
    simp only [hrow, KeyedList.exists_getElem?_iff] at hgroup
    rw [hmem]
    refine (exists_congr fun e => and_congr_right fun _ => ?_).trans (hgroup.trans (by simp [Item.NamedIn]))
    constructor
    · rintro (⟨hno, -⟩ | ⟨row, hsensing, hi⟩)
      · cases hno
      · obtain rfl := hkind hi
        exact ⟨rfl, row, hsensing, hi⟩
    · rintro ⟨rfl, hrows⟩
      exact Or.inr hrows
  | port _ _ | kind _ | name _ _ | refdes _ _ | bus _ _ | rail _ =>
    refine iff_of_false (fun ha => ?_) (by simp [Item.NamedIn, Document.setUp])
    simpa [Item.home] using hhome ha

/-- The row in a group that the name of a sensor leads to. -/
def rowOf? (g : DeviceGroup) : Item → Option Nat
  | .sensorName _ n => g.byName.get? n
  | _ => none

theorem nodup_sensorItems (h : d.resolve = .ok t) : (sensorItems t).Nodup := by
  have hcovers := Document.covers_of_resolve h
  have hkind : ∀ e ∈ t.groups.entries, ∀ a ∈ kindItems t e, a.kind? = some e.1 := by
    intro e _ a ha
    rcases mem_kindItems_iff.mp ha with ⟨rfl, -⟩ | ⟨row, -, hi⟩
    · rfl
    · obtain ⟨b, -, hb⟩ := List.mem_flatMap.mp hi
      obtain ⟨n, -, rfl⟩ := List.mem_map.mp hb
      rfl
  have hkeys := (List.nodup_map_iff fun _ _ => Option.some.inj).mpr t.groups.nodup_keys
  rw [List.map_map] at hkeys
  refine KeyedList.nodup_flatMap_of_tag hkeys (fun e he => ?_) Item.kind? hkind
  obtain ⟨k, g⟩ := e
  obtain rfl : t.group k = g := by
    rw [Topology.group, OrderedMap.mem_entries_iff.mp he]
    rfl
  unfold kindItems
  split
  · exact List.nodup_nil
  refine List.nodup_cons.mpr ⟨fun hmem => ?_, ?_⟩
  · obtain ⟨row, -, hi⟩ := List.mem_flatMap.mp hmem
    cases home_of_mem_instanceItems hi
  -- a name leads to the device that has it
  have hrows : (sensing t (t.group k)).Nodup := by
    rw [sensing, (Document.grouped_of_resolve h).devices]
    exact List.nodup_findIdxs.filter _
  have hrows' := (List.nodup_map_iff fun _ _ => Option.some.inj).mpr hrows
  refine KeyedList.nodup_flatMap_of_tag hrows' (fun row hrow => ?_) (rowOf? (t.group k)) fun row hrow a ha => ?_
  · obtain ⟨e, he, -, -⟩ := (mem_sensing_iff h).mp hrow
    rw [instanceItems_eq h he]
    have hfits := Document.fits_of_resolve h e (List.mem_of_getElem? he)
    exact (List.nodup_map_iff fun _ _ e => by simpa using e).mpr hfits.names
  · obtain ⟨e, he, hkind, -⟩ := (mem_sensing_iff h).mp hrow
    rw [instanceItems_eq h he] at ha
    obtain ⟨n, hn, rfl⟩ := List.mem_map.mp ha
    exact (hcovers.names k n row).mpr ⟨e, he, hkind, hn⟩

end SensorSection

/-! ## The demands of an artifact -/

/-- What an artifact with some parts demands, part after part. -/
def Topology.demands (t : Topology) (dispositions : List Disposition) : List Demand :=
  (if .initiator ∈ dispositions then BusSection.demands t .initiator
    else if .target ∈ dispositions then BusSection.demands t .target else []) ++
  (if .devices ∈ dispositions then (AccessorSection.accessorItems t).map .named else []) ++
  if .sensors ∈ dispositions then (SensorSection.sensorItems t).map .named else []

namespace Document

variable {d : Document} {t : Topology} {dispositions : List Disposition}

/-- The demands of the setup are those of the controllers that are set up, after that for one target controller. -/
theorem demands_eq (h : d.resolve = .ok t) : t.demands dispositions =
    (if .initiator ∉ dispositions ∧ .target ∈ dispositions then [.single (d.controllersIn .target).length] else []) ++
      (d.setUp dispositions).flatMap (·.demands) ++
      (if .devices ∈ dispositions then (AccessorSection.accessorItems t).map .named else []) ++
      if .sensors ∈ dispositions then (SensorSection.sensorItems t).map .named else [] := by
  have hbus := BusSection.demands_eq (covers_of_resolve h).declares
  unfold Topology.demands setUp
  by_cases hinitiator : Disposition.initiator ∈ dispositions
  · simp [hinitiator, hbus]
  · by_cases htarget : Disposition.target ∈ dispositions
    · simp [hinitiator, htarget, hbus]
    · simp [hinitiator, htarget]

theorem items_eq (h : d.resolve = .ok t) : Demand.items (t.demands dispositions) =
    (d.setUp dispositions).flatMap (·.items) ++
      (if .devices ∈ dispositions then AccessorSection.accessorItems t else []) ++
      if .sensors ∈ dispositions then SensorSection.sensorItems t else [] := by
  have hsetUp : Demand.items ((d.setUp dispositions).flatMap (·.demands)) =
      (d.setUp dispositions).flatMap (·.items) := by
    rw [Demand.items, List.filterMap_flatMap]
    refine congrArg (List.flatMap · _) (funext fun c => ?_)
    exact Demand.items_named c.items
  have hpart : ∀ (part : Disposition) (as : List Item),
      Demand.items (if part ∈ dispositions then as.map .named else []) = if part ∈ dispositions then as else [] := by
    intro part as
    split
    · exact Demand.items_named as
    · rfl
  rw [demands_eq h, Demand.items_append, Demand.items_append, Demand.items_append, hsetUp, hpart, hpart]
  split <;> rfl

/-- An artifact demands an identifier for each item that it names, and for nothing else. -/
theorem mem_items_iff (h : d.resolve = .ok t) {a : Item} :
    a ∈ Demand.items (t.demands dispositions) ↔ a.NamedIn d dispositions := by
  have hsetUp : ∀ part : Disposition, part ≠ .initiator → part ≠ .target → d.setUp [part] = [] := by
    intro part hinitiator htarget
    simp [setUp, hinitiator.symm, htarget.symm]
  rw [items_eq h, List.mem_append, List.mem_append, List.mem_flatMap, List.mem_ite_nil_right, List.mem_ite_nil_right,
    AccessorSection.mem_accessorItems_iff h, SensorSection.mem_sensorItems_iff h]
  cases a <;> simp [Item.NamedIn, ControllerDecl.items, hsetUp, eq_comm, and_comm]

theorem namedIn_of_mem_sensorItems (h : d.resolve = .ok t) (hsensors : .sensors ∈ dispositions) {a : Item}
    (ha : a ∈ SensorSection.sensorItems t) : a.NamedIn d dispositions := by
  rw [← mem_items_iff h, items_eq h, if_pos hsensors]
  exact List.mem_append_right _ ha

/-- No item is named twice. -/
theorem nodup_items (h : d.resolve = .ok t) : (Demand.items (t.demands dispositions)).Nodup := by
  have hnumbers : ((d.setUp dispositions).map (·.controller)).Nodup := by
    have hall := (controllersFit_of_resolve h).numbers
    unfold setUp
    split
    · exact hall.sublist (List.filter_sublist.map _)
    · split
      · exact hall.sublist (List.filter_sublist.map _)
      · exact List.nodup_nil
  have hports : ((d.setUp dispositions).flatMap (·.items)).Nodup := by
    refine KeyedList.nodup_flatMap_of_tag hnumbers (fun c _ => ?_) (fun | .port c _ => c.number | _ => 0) ?_
    · exact (List.nodup_map_iff fun _ _ e => by simpa using e).mpr c.ports.nodup_keys
    · intro c _ a ha
      obtain ⟨key, -, rfl⟩ := List.mem_map.mp ha
      rfl
  have hpart : ∀ (part : Disposition) {as : List Item}, as.Nodup → (if part ∈ dispositions then as else []).Nodup := by
    intro part as has
    split
    · exact has
    · exact List.nodup_nil
  rw [items_eq h, List.append_assoc]
  refine hports.append ((hpart _ (AccessorSection.nodup_accessorItems t)).append
    (hpart _ (SensorSection.nodup_sensorItems h)) fun a ha ha' => ?_) fun a ha ha' => ?_
  · rw [List.mem_ite_nil_right, AccessorSection.mem_accessorItems_iff h] at ha
    rw [List.mem_ite_nil_right, SensorSection.mem_sensorItems_iff h] at ha'
    cases a <;> simp [Item.NamedIn, setUp] at ha ha'
  · obtain ⟨c, -, hc⟩ := List.mem_flatMap.mp ha
    obtain ⟨key, -, rfl⟩ := List.mem_map.mp hc
    rw [List.mem_append, List.mem_ite_nil_right, List.mem_ite_nil_right, AccessorSection.mem_accessorItems_iff h,
      SensorSection.mem_sensorItems_iff h] at ha'
    simp [Item.NamedIn, setUp] at ha'

end Document

end I2cTopology
