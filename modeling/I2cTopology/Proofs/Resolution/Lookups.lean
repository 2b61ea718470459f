import I2cTopology.Proofs.Resolution.Faithful
import I2cTopology.Proofs.Resolution.Groups

/-!
# Lookup tables invert the table of devices

Names and designators lead to exactly the devices that have them, the groups have the kinds of the devices in the order
in which they first appear, and split the devices among them, and the devices of a kind are found under exactly the
buses that they sit on (`Topology.Indexed`). This holds of the board of every resolved document
(`Document.lookups_invert`).
-/

namespace I2cTopology

/-! ## Rows in order -/

/-- Rows in ascending order that are exactly those with a property. -/
structure Enumerates (rows : List Nat) (p : Nat → Prop) : Prop where
  ascending : rows.Pairwise (· < ·)
  mem_iff : ∀ row, row ∈ rows ↔ p row

namespace Enumerates

variable {rows others : List Nat} {p q : Nat → Prop}

theorem congr (h : Enumerates rows p) (hpq : ∀ row, p row ↔ q row) : Enumerates rows q :=
  ⟨h.ascending, fun row => (h.mem_iff row).trans (hpq row)⟩

theorem nodup (h : Enumerates rows p) : rows.Nodup := h.ascending.imp Nat.ne_of_lt

theorem perm (h : Enumerates rows p) (h' : Enumerates others p) : rows.Perm others :=
  (List.perm_ext_iff_of_nodup h.nodup h'.nodup).mpr fun row => (h.mem_iff row).trans (h'.mem_iff row).symm

/-- A search lists the rows that pass it. -/
theorem findIdxs {α : Type} (l : List α) (f : α → Bool) :
    Enumerates (l.findIdxs f) fun row => ∃ a, l[row]? = some a ∧ f a = true := by
  refine ⟨List.pairwise_findIdxs, fun row => ?_⟩
  rw [List.mem_findIdxs_iff_exists_getElem_pos]
  constructor
  · rintro ⟨hrow, hf⟩
    exact ⟨l[row], List.getElem?_eq_getElem hrow, hf⟩
  · rintro ⟨a, ha, hf⟩
    obtain ⟨hrow, rfl⟩ := List.getElem?_eq_some_iff.mp ha
    exact ⟨hrow, hf⟩

end Enumerates

/-! ## Keys in the order in which they first appear -/

theorem eraseDups_concat {α : Type} [DecidableEq α] (l : List α) (a : α) :
    (l ++ [a]).eraseDups = if a ∈ l then l.eraseDups else l.eraseDups ++ [a] := by
  rw [List.eraseDups_append, List.removeAll]
  by_cases ha : a ∈ l
  · simp [ha]
  · simp [ha, List.eraseDups_cons]

/-- A key that is put in after others comes behind them, unless it is one of them. -/
theorem OrderedMap.keys_upsert_eq_eraseDups {κ ν : Type} [DecidableEq κ] {m : OrderedMap κ ν} {keys : List κ}
    (h : m.keys = keys.eraseDups) (k : κ) (f : Option ν → ν) : (m.upsert k f).keys = (keys ++ [k]).eraseDups := by
  rw [keys_upsert, h, eraseDups_concat]
  simp only [List.mem_eraseDups]

/-! ## The groups -/

namespace Topology

/-- A device of a kind is in a row and sits on a port with a name. -/
def OnBus (t : Topology) (kind bus : String) (row : Nat) : Prop :=
  ∃ b p, t.devices[row]? = some b ∧ b.kind = kind ∧ t.ports[b.portSlot]? = some p ∧ p.name = some bus

/-- The lookup tables say what the table of devices says. -/
structure Indexed (t : Topology) : Prop where
  deviceByName_iff : ∀ kind name row, t.deviceByName kind name = some row ↔
    ∃ b, t.devices[row]? = some b ∧ b.kind = kind ∧ name ∈ b.names
  deviceByRefdes_iff : ∀ kind refdes row, t.deviceByRefdes kind refdes = some row ↔
    ∃ b, t.devices[row]? = some b ∧ b.kind = kind ∧ b.refdes = some refdes
  /-- The kinds are in the order in which they first appear. -/
  kinds_eq : t.groups.keys = (t.devices.map (·.kind)).eraseDups
  devices : ∀ kind g, t.groups.get? kind = some g →
    Enumerates g.devices fun row => ∃ b, t.devices[row]? = some b ∧ b.kind = kind
  /-- Each device is in one group. -/
  partition : (t.groups.entries.flatMap (·.2.devices)).Perm (List.range t.devices.length)
  byBus : ∀ kind g, t.groups.get? kind = some g → ∀ bus rows, g.byBus.get? bus = some rows →
    Enumerates rows (t.OnBus kind bus)
  mem_buses_iff : ∀ kind g, t.groups.get? kind = some g → ∀ bus, bus ∈ g.byBus.keys ↔ ∃ row, t.OnBus kind bus row

/-- The groups have the kinds of the devices as keys, in order, and list no bus without devices. -/
structure GroupsKeyed (t : Topology) : Prop where
  kinds_eq : t.groups.keys = (t.devices.map (·.kind)).eraseDups
  buses : ∀ kind bus, (t.group kind).byBus.get? bus ≠ some []

theorem GroupsKeyed.addDevice {t u : Topology} {d : DeviceDecl} (h : t.GroupsKeyed) (hu : t.addDevice d = .ok u) :
    u.GroupsKeyed := by
  obtain ⟨b, group, sensors, rails, -, hgroup, -, -, rfl⟩ := addDevice_eq_ok_iff.mp hu
  obtain ⟨-, rfl⟩ := DeviceGroup.add_eq_ok_iff.mp hgroup
  refine ⟨?_, fun kind bus => ?_⟩
  · rw [List.map_append]
    exact OrderedMap.keys_upsert_eq_eraseDups h.kinds_eq b.kind _
  · rw [Topology.group, OrderedMap.get?_insert]
    split
    · have hold := h.buses b.kind bus
      cases hbus : b.bus with
      | none => simpa [DeviceGroup.enter, hbus] using hold
      | some other =>
        simp only [Option.getD_some, DeviceGroup.enter, hbus, Option.toList_some, List.foldl_cons, List.foldl_nil,
          OrderedMap.get?_upsert]
        split
        · simp
        · exact hold
    · exact h.buses kind bus

theorem groupsKeyed_ofControllers (cs : List ControllerDecl) : (ofControllers cs).GroupsKeyed :=
  ⟨rfl, fun _ _ h => by cases h⟩

theorem group_of_get? {t : Topology} {kind : String} {g : DeviceGroup} (h : t.groups.get? kind = some g) :
    t.group kind = g := by
  rw [group, h, Option.getD_some]

/-- A kind that no group is for has no entries. -/
theorem bind_get?_groups {t : Topology} {ν : Type} (part : DeviceGroup → OrderedMap String ν) (hpart : part {} = {})
    (kind key : String) : (t.groups.get? kind).bind (fun g => (part g).get? key) = (part (t.group kind)).get? key := by
  rw [group]
  cases t.groups.get? kind with
  | none =>
    rw [Option.getD_none, hpart]
    rfl
  | some g => rfl

/-- The groups of all kinds split the devices among them. -/
theorem perm_flatMap_groups {t : Topology} (hkeys : t.groups.keys = (t.devices.map (·.kind)).eraseDups)
    (hdevices : ∀ kind g, t.groups.get? kind = some g →
      Enumerates g.devices fun row => ∃ b, t.devices[row]? = some b ∧ b.kind = kind) :
    (t.groups.entries.flatMap (·.2.devices)).Perm (List.range t.devices.length) := by
  have hgroup : ∀ e ∈ t.groups.entries,
      Enumerates e.2.devices fun row => ∃ b, t.devices[row]? = some b ∧ b.kind = e.1 :=
    fun e he => hdevices e.1 e.2 (OrderedMap.mem_entries_iff.mp he)
  have hnodup : (t.groups.entries.flatMap (·.2.devices)).Nodup := by
    have htags := (List.nodup_map_iff fun _ _ => Option.some.inj).mpr t.groups.nodup_keys
    rw [List.map_map] at htags
    refine KeyedList.nodup_flatMap_of_tag htags (fun e he => (hgroup e he).nodup)
      (fun row => (t.devices[row]?).map (·.kind)) fun e he row hrow => ?_
    obtain ⟨b, hb, hkind⟩ := ((hgroup e he).mem_iff row).mp hrow
    rw [hb, Option.map_some, hkind]
    rfl
  refine (List.perm_ext_iff_of_nodup hnodup List.nodup_range).mpr fun row => ?_
  rw [List.mem_flatMap, List.mem_range]
  constructor
  · rintro ⟨e, he, hrow⟩
    obtain ⟨b, hb, -⟩ := ((hgroup e he).mem_iff row).mp hrow
    exact (List.getElem?_eq_some_iff.mp hb).1
  · intro hrow
    have hkind : t.devices[row].kind ∈ t.groups.keys := by
      rw [hkeys, List.mem_eraseDups]
      exact List.mem_map_of_mem (List.getElem_mem hrow)
    obtain ⟨e, he, heq⟩ := List.mem_map.mp hkind
    exact ⟨e, he, ((hgroup e he).mem_iff row).mpr ⟨_, List.getElem?_eq_getElem hrow, heq.symm⟩⟩

end Topology

/-! ## Whole documents -/

/-- Rows of the table of devices and of the declared devices have the same properties, if each device does with its
row. -/
theorem Topology.Covers.exists_row_iff {t : Topology} {cs : List ControllerDecl} {ds : List DeviceDecl}
    (h : t.Covers cs ds) {p : BoardDevice → Prop} {q : DeviceDecl → Prop}
    (hpq : ∀ e b, e.PlacedAs cs b → (p b ↔ q e)) (row : Nat) :
    (∃ b, t.devices[row]? = some b ∧ p b) ↔ ∃ e, ds[row]? = some e ∧ q e := by
  constructor
  · rintro ⟨b, hb, hp⟩
    obtain ⟨e, he, hplaced⟩ := h.exists_placedAs hb
    exact ⟨e, he, (hpq e b hplaced).mp hp⟩
  · rintro ⟨e, he, hq⟩
    obtain ⟨b, hb, hplaced⟩ := h.placed row e he
    exact ⟨b, hb, (hpq e b hplaced).mpr hq⟩

namespace Document

/-- The kinds of the devices, in the order in which they first appear. -/
def kinds (d : Document) : List String := (d.devices.map (·.device)).eraseDups

/-- A device of a kind is declared in a row and sits on a port with a name. -/
def OnBus (d : Document) (kind bus : String) (row : Nat) : Prop :=
  ∃ e, d.devices[row]? = some e ∧ e.device = kind ∧ ∃ p, e.SitsOn d.controllers p ∧ p.decl.name = some bus

variable {d : Document} {t : Topology}

theorem groupsKeyed_of_resolve (h : d.resolve = .ok t) : t.GroupsKeyed :=
  knows_of_resolve h (fun _ t => t.GroupsKeyed) (Topology.groupsKeyed_ofControllers d.controllers)
    fun _ hkeyed hu => hkeyed.addDevice hu

/-- The port of a device in the table has the name of its bus. -/
theorem onBus_iff_bus (h : d.resolve = .ok t) {kind bus : String} {row : Nat} :
    t.OnBus kind bus row ↔ ∃ b, t.devices[row]? = some b ∧ (b.kind == kind && b.bus == some bus) = true := by
  have hcovers := covers_of_resolve h
  simp only [Topology.OnBus, Bool.and_eq_true, beq_iff_eq]
  refine exists_congr fun b => ?_
  constructor
  · rintro ⟨p, hb, hkind, hp, hname⟩
    obtain ⟨e, -, hplaced⟩ := hcovers.exists_placedAs hb
    obtain ⟨q, hq⟩ := (hcovers.declares.describedBy hplaced).port
    obtain rfl := Option.some.inj (hp.symm.trans hq.port_eq)
    exact ⟨hb, hkind, hq.bus_eq.trans hname⟩
  · rintro ⟨hb, hkind, hbus⟩
    obtain ⟨e, -, hplaced⟩ := hcovers.exists_placedAs hb
    obtain ⟨q, hq⟩ := (hcovers.declares.describedBy hplaced).port
    exact ⟨q, hb, hkind, hq.port_eq, hq.bus_eq.symm.trans hbus⟩

/-- A device is on the bus whose name its port is declared with. -/
theorem onBus_iff (h : d.resolve = .ok t) {kind bus : String} {row : Nat} :
    t.OnBus kind bus row ↔ d.OnBus kind bus row := by
  rw [onBus_iff_bus h]
  refine (covers_of_resolve h).exists_row_iff (fun e b hplaced => ?_) row
  obtain ⟨slot, p, hp, hsits, -, rfl⟩ := hplaced
  rw [Bool.and_eq_true, beq_iff_eq, beq_iff_eq]
  refine and_congr_right fun _ => ⟨fun hbus => ⟨p, hsits, hbus⟩, ?_⟩
  rintro ⟨q, hq, hname⟩
  obtain ⟨other, hother⟩ := List.getElem?_of_mem hq.mem
  obtain rfl := (controllersFit_of_resolve h).slot_unique hp hother hsits hq
  obtain rfl := Option.some.inj (hp.symm.trans hother)
  exact hname

theorem keys_groups_of_resolve (h : d.resolve = .ok t) : t.groups.keys = d.kinds := by
  rw [(groupsKeyed_of_resolve h).kinds_eq, kinds]
  exact congrArg _ (map_eq_map_of_forall₂ (describedBy_of_resolve h).devices fun _ _ hrow => hrow.kind_eq.symm).symm

/-- The devices of a kind under a bus are those that sit on it. -/
theorem enumerates_byBus (h : d.resolve = .ok t) (kind bus : String) :
    Enumerates (((t.group kind).byBus.get? bus).getD []) (t.OnBus kind bus) := by
  rw [(grouped_of_resolve h).byBus]
  exact (Enumerates.findIdxs t.devices _).congr fun row => (onBus_iff_bus h).symm

theorem mem_buses_iff (h : d.resolve = .ok t) {kind bus : String} :
    bus ∈ (t.group kind).byBus.keys ↔ ∃ row, t.OnBus kind bus row := by
  have hrows := enumerates_byBus h kind bus
  have hbuses := (groupsKeyed_of_resolve h).buses kind bus
  simp only [← hrows.mem_iff, ← List.isEmpty_eq_false_iff_exists_mem]
  rw [← not_iff_not, ← OrderedMap.get?_eq_none_iff, Bool.not_eq_false, List.isEmpty_iff]
  cases hfound : (t.group kind).byBus.get? bus with
  | none => simp
  | some rows =>
    rw [hfound, ne_eq, Option.some.injEq] at hbuses
    simpa using hbuses

theorem indexed_of_resolve (h : d.resolve = .ok t) : t.Indexed := by
  have hcovers := covers_of_resolve h
  have hkeyed := groupsKeyed_of_resolve h
  have hdevices : ∀ kind g, t.groups.get? kind = some g →
      Enumerates g.devices fun row => ∃ b, t.devices[row]? = some b ∧ b.kind = kind := by
    intro kind g hg
    rw [← Topology.group_of_get? hg, (grouped_of_resolve h).devices]
    exact (Enumerates.findIdxs t.devices _).congr fun row => by simp only [beq_iff_eq]
  refine
    { deviceByName_iff := fun kind name row => ?_
      deviceByRefdes_iff := fun kind refdes row => ?_
      kinds_eq := hkeyed.kinds_eq
      devices := hdevices
      partition := Topology.perm_flatMap_groups hkeyed.kinds_eq hdevices
      byBus := fun kind g hg bus rows hrows => ?_
      mem_buses_iff := fun kind g hg bus => ?_ }
  · rw [Topology.deviceByName, Topology.bind_get?_groups (·.byName) rfl, hcovers.names kind name row,
      hcovers.exists_row_iff]
    rintro e b ⟨slot, p, -, -, -, rfl⟩
    rfl
  · rw [Topology.deviceByRefdes, Topology.bind_get?_groups (·.byRefdes) rfl, hcovers.refdes kind refdes row,
      hcovers.exists_row_iff]
    rintro e b ⟨slot, p, -, -, -, rfl⟩
    exact and_congr_right fun _ => Option.mem_toList.symm
  · have hlist := enumerates_byBus h kind bus
    rwa [Topology.group_of_get? hg, hrows, Option.getD_some] at hlist
  · rw [← Topology.group_of_get? hg]
    exact mem_buses_iff h

/-- **Lookup tables invert the table of devices.** The devices of a resolved document are in its board's table, in
order and as declared, and the lookup tables say what that table says. -/
theorem lookups_invert (h : d.resolve = .ok t) :
    List.Forall₂ (DeviceDecl.DescribedBy t) d.devices t.devices ∧ t.Indexed :=
  ⟨(describedBy_of_resolve h).devices, indexed_of_resolve h⟩

end Document

namespace TwoPortsOneController

/-- Kinds in turn, a device with two names, and two ports: one is reached by its bus, or by its controller and key, and
the other one has no name. -/
def document : Document where
  controllers := [{ controller := 4, ports := .ofList [("B", { name := some "front" }), ("D", {})] }]
  devices := [
    { device := "tmp117", bus := some "front", address := 0x48, names := ["inlet", "air"], refdes := some "U7" },
    { device := "at24csw080", controller := some 4, port := some "D", address := 0x50, names := ["air"] },
    { device := "tmp117", controller := some 4, port := some "D", address := 0x48, names := ["outlet"] },
    { device := "tmp117", controller := some 4, port := some "B", address := 0x49, refdes := some "U9" }]

def board : Topology := document.resolve.toOption.getD {}

/-- A name leads to the device of the kind that is asked for, and the unnamed port is under no bus. -/
theorem lookups_invert_in_turn :
    document.resolve = .ok board ∧ board.groups.keys = ["tmp117", "at24csw080"] ∧
    board.deviceByName "tmp117" "air" = some 0 ∧ board.deviceByName "at24csw080" "air" = some 1 ∧
    (board.group "tmp117").devices = [0, 2, 3] ∧ (board.group "tmp117").byBus.entries = [("front", [0, 3])] ∧
    (board.group "at24csw080").byBus.entries = [] ∧
    List.Forall₂ (DeviceDecl.DescribedBy board) document.devices board.devices ∧ board.Indexed :=
  ⟨rfl, rfl, rfl, rfl, rfl, rfl, rfl, Document.lookups_invert rfl⟩

end TwoPortsOneController

end I2cTopology
