import I2cTopology.Proofs.Resolution.SensorIds

/-!
# Boards that grow

A document with more devices behind its own resolves to the same board with more rows at the end of its tables, or not
at all: no row moves, no id changes, and no earlier failure gives way to another (`Document.resolve_withDevices`).

- one more device lets every table grow at its end (`Topology.growsTo_addDevice`), and so do any number of them
  (`Topology.growsTo_foldlM`);
- a look-up that succeeds on a board gives the same row on every board that it grows to
  (`Topology.GrowsTo.deviceByName_eq`, `Topology.GrowsTo.deviceByRefdes_eq`).
-/

namespace I2cTopology

/-! ## Maps that grow -/

section

variable {κ ν : Type} {R : ν → ν → Prop}

/-- The keys of a map keep their positions and new ones follow them; what stands under a key may change as `R` says. -/
structure OrderedMap.GrowsTo [DecidableEq κ] (R : ν → ν → Prop) (m n : OrderedMap κ ν) : Prop where
  keys : m.keys <+: n.keys
  values : ∀ k v, m.get? k = some v → ∃ w, n.get? k = some w ∧ R v w

namespace OrderedMap

variable [DecidableEq κ]

namespace GrowsTo

theorem refl (hR : ∀ v, R v v) (m : OrderedMap κ ν) : m.GrowsTo R m :=
  ⟨List.prefix_refl _, fun _ v hv => ⟨v, hv, hR v⟩⟩

theorem trans {m n o : OrderedMap κ ν} (h : m.GrowsTo R n) (h' : n.GrowsTo R o)
    (hR : ∀ u v w, R u v → R v w → R u w) : m.GrowsTo R o := by
  refine ⟨h.keys.trans h'.keys, ?_⟩
  intro k v hv
  obtain ⟨w, hw, hvw⟩ := h.values k v hv
  obtain ⟨x, hx, hwx⟩ := h'.values k w hw
  exact ⟨x, hx, hR v w x hvw hwx⟩

/-- An update lets a map grow if it changes what was there as it may be changed. -/
theorem upsert (hR : ∀ v, R v v) (m : OrderedMap κ ν) (k : κ) {f : Option ν → ν}
    (hf : ∀ v, m.get? k = some v → R v (f (some v))) : m.GrowsTo R (m.upsert k f) := by
  constructor
  · rw [keys_upsert]
    split
    · exact List.prefix_refl _
    · exact List.prefix_append _ _
  · intro j v hv
    rw [get?_upsert]
    by_cases hj : j = k
    · subst hj
      rw [if_pos rfl, hv]
      exact ⟨_, rfl, hf v hv⟩
    · rw [if_neg hj]
      exact ⟨v, hv, hR v⟩

/-- Where no value changes, the entries stay and new ones follow them. -/
theorem entries_isInitial {m n : OrderedMap κ ν} (h : m.GrowsTo (· = ·) n) : m.entries <+: n.entries := by
  have hkeep : ∀ e ∈ m.entries, n.get? e.1 = some e.2 := by
    rintro ⟨k, v⟩ he
    obtain ⟨w, hw, rfl⟩ := h.values k v (mem_entries_iff.mp he)
    exact hw
  -- position by position: the keys agree, and a map has one value for a key
  refine List.prefix_iff_getElem?.mpr fun i hi => ?_
  have hkey : n.keys[i]? = some m.entries[i].1 := by
    have hprefix := List.prefix_iff_getElem?.mp h.keys i (by simpa [OrderedMap.keys] using hi)
    simpa [OrderedMap.keys] using hprefix
  rw [OrderedMap.keys, List.getElem?_map] at hkey
  obtain ⟨⟨k, v⟩, he, hk⟩ := Option.map_eq_some_iff.mp hkey
  obtain rfl : k = m.entries[i].1 := hk
  have hv := mem_entries_iff.mp (List.mem_of_getElem? he)
  rw [hkeep _ (List.getElem_mem hi)] at hv
  rw [he, ← Option.some.inj hv]

end GrowsTo

end OrderedMap

end

/-! ## Boards that grow -/

/-- The devices of a group stay and more follow them, and so do the entries of each of its maps. -/
structure DeviceGroup.GrowsTo (g h : DeviceGroup) : Prop where
  devices : g.devices <+: h.devices
  byName : g.byName.entries <+: h.byName.entries
  byRefdes : g.byRefdes.entries <+: h.byRefdes.entries
  byBus : g.byBus.GrowsTo (· <+: ·) h.byBus

/-- A board has more devices behind those that were there; nothing else about it has changed. -/
structure Topology.GrowsTo (t u : Topology) : Prop where
  controllers_eq : u.controllers = t.controllers
  ports_eq : u.ports = t.ports
  muxes_eq : u.muxes = t.muxes
  devices : t.devices <+: u.devices
  bindings : t.sensors.bindings <+: u.sensors.bindings
  groups : t.groups.GrowsTo DeviceGroup.GrowsTo u.groups
  rails : t.rails.GrowsTo (· <+: ·) u.rails

namespace DeviceGroup

variable {g h k : DeviceGroup}

theorem GrowsTo.refl (g : DeviceGroup) : g.GrowsTo g :=
  ⟨List.prefix_refl _, List.prefix_refl _, List.prefix_refl _, .refl List.prefix_refl _⟩

theorem GrowsTo.trans (hg : g.GrowsTo h) (hh : h.GrowsTo k) : g.GrowsTo k :=
  ⟨hg.devices.trans hh.devices, hg.byName.trans hh.byName, hg.byRefdes.trans hh.byRefdes,
    hg.byBus.trans hh.byBus fun _ _ _ => List.IsPrefix.trans⟩

/-- New identifiers go behind the known ones. -/
theorem growsTo_foldl_insert (row : Nat) {ids : List String} {known : OrderedMap String Nat} (hn : ids.Nodup)
    (hnew : ∀ i ∈ ids, known.get? i = none) :
    known.GrowsTo (· = ·) (ids.foldl (fun m i => m.insert i row) known) := by
  induction ids generalizing known with
  | nil => exact .refl (fun _ => rfl) known
  | cons i ids ih =>
    obtain ⟨hi, hn⟩ := List.nodup_cons.mp hn
    obtain ⟨hnone, hnew⟩ := List.forall_mem_cons.mp hnew
    have hfirst : known.GrowsTo (· = ·) (known.insert i row) := by
      refine .upsert (fun _ => rfl) known i fun v hv => ?_
      rw [hnone] at hv
      cases hv
    refine hfirst.trans (ih hn ?_) fun _ _ _ => Eq.trans
    intro j hj
    rw [OrderedMap.get?_insert, if_neg fun e : j = i => hi (e ▸ hj)]
    exact hnew j hj

theorem growsTo_add {row : Nat} {d : BoardDevice} (hadd : g.add row d = .ok h) : g.GrowsTo h := by
  obtain ⟨⟨hn, hnames, hrefdes⟩, rfl⟩ := add_eq_ok_iff.mp hadd
  have hone : d.refdes.toList.Nodup := by cases d.refdes <;> simp
  refine ⟨List.prefix_append _ _, (growsTo_foldl_insert row hn hnames).entries_isInitial,
    (growsTo_foldl_insert row hone hrefdes).entries_isInitial, ?_⟩
  unfold enter
  cases d.bus with
  | none => exact .refl List.prefix_refl _
  | some bus =>
    refine .upsert List.prefix_refl _ bus fun rows _ => ?_
    exact List.prefix_append rows [row]

end DeviceGroup

namespace Topology

variable {t u v : Topology}

theorem GrowsTo.refl (t : Topology) : t.GrowsTo t :=
  ⟨rfl, rfl, rfl, List.prefix_refl _, List.prefix_refl _, .refl DeviceGroup.GrowsTo.refl _, .refl List.prefix_refl _⟩

theorem GrowsTo.trans (h : t.GrowsTo u) (h' : u.GrowsTo v) : t.GrowsTo v :=
  ⟨h'.controllers_eq.trans h.controllers_eq, h'.ports_eq.trans h.ports_eq, h'.muxes_eq.trans h.muxes_eq,
    h.devices.trans h'.devices, h.bindings.trans h'.bindings,
    h.groups.trans h'.groups fun _ _ _ => DeviceGroup.GrowsTo.trans,
    h.rails.trans h'.rails fun _ _ _ => List.IsPrefix.trans⟩

/-- A claim goes behind the earlier claims to its rail. -/
theorem growsTo_claimRail {row : Nat} {kind : String} {w : PowerDecl} {rails next : OrderedMap String (List RailClaim)}
    {entry : String × Nat} (h : t.claimRail row kind w rails entry = .ok next) : rails.GrowsTo (· <+: ·) next := by
  obtain ⟨rail, index⟩ := entry
  simp only [claimRail] at h
  split at h
  · obtain rfl := Except.ok.inj h
    exact .refl List.prefix_refl _
  · simp at h
    obtain ⟨-, -, -, -, -, -, rfl⟩ := h
    refine .upsert List.prefix_refl _ rail fun claims _ => ?_
    exact List.prefix_append claims _

theorem growsTo_claimPower {d : DeviceDecl} {rails : OrderedMap String (List RailClaim)}
    (h : t.claimPower d = .ok rails) : t.rails.GrowsTo (· <+: ·) rails := by
  unfold claimPower at h
  cases hw : d.power with
  | none =>
    rw [hw] at h
    obtain rfl := Except.ok.inj h
    exact .refl List.prefix_refl _
  | some w =>
    rw [hw] at h
    obtain ⟨-, hwalk⟩ := claimRails_eq_ok_iff.mp h
    refine foldlM_keeps (fun _ (rails : OrderedMap String (List RailClaim)) => t.rails.GrowsTo (· <+: ·) rails) ?_ []
      (.refl List.prefix_refl _) hwalk
    intro _ before entry after hbefore hstep
    exact hbefore.trans (growsTo_claimRail hstep) fun _ _ _ => List.IsPrefix.trans

/-- One more device lets a board grow. -/
theorem growsTo_addDevice {d : DeviceDecl} (h : t.addDevice d = .ok u) : t.GrowsTo u := by
  obtain ⟨b, group, sensors, rails, -, hgroup, hsensors, hrails, rfl⟩ := addDevice_eq_ok_iff.mp h
  obtain ⟨runs, hruns, rfl⟩ := SensorTable.exists_took_of_add hsensors
  refine ⟨rfl, rfl, rfl, List.prefix_append _ _, ?_, ?_, growsTo_claimPower hrails⟩
  · rw [hruns.bindings_eq]
    exact List.prefix_append _ _
  · -- the group of the device's kind is put back where it was, or behind the others
    refine .upsert DeviceGroup.GrowsTo.refl t.groups b.kind fun old hold => ?_
    have hadded := DeviceGroup.growsTo_add hgroup
    rw [Topology.group, hold, Option.getD_some] at hadded
    exact hadded

/-- Any number of devices let a board grow. -/
theorem growsTo_foldlM {ds : List DeviceDecl} (h : ds.foldlM addDevice t = .ok u) : t.GrowsTo u :=
  foldlM_keeps (fun _ u => t.GrowsTo u) (fun hbefore hstep => hbefore.trans (growsTo_addDevice hstep)) [] (.refl t) h

/-! ### Look-ups -/

/-- What a map of a group gives, it gives on every board that the board grows to. -/
theorem GrowsTo.lookup_eq (h : t.GrowsTo u) {part : DeviceGroup → OrderedMap String Nat}
    (hpart : ∀ {g k : DeviceGroup}, g.GrowsTo k → (part g).entries <+: (part k).entries) {kind identifier : String}
    {row : Nat} (hrow : ((t.groups.get? kind).bind fun g => (part g).get? identifier) = some row) :
    ((u.groups.get? kind).bind fun g => (part g).get? identifier) = some row := by
  obtain ⟨g, hg, hfound⟩ := Option.bind_eq_some_iff.mp hrow
  obtain ⟨k, hk, hgrown⟩ := h.groups.values kind g hg
  rw [hk, Option.bind_some]
  exact OrderedMap.mem_entries_iff.mp ((hpart hgrown).subset (OrderedMap.mem_entries_iff.mpr hfound))

theorem GrowsTo.deviceByName_eq (h : t.GrowsTo u) {kind name : String} {row : Nat}
    (hrow : t.deviceByName kind name = some row) : u.deviceByName kind name = some row :=
  h.lookup_eq DeviceGroup.GrowsTo.byName hrow

theorem GrowsTo.deviceByRefdes_eq (h : t.GrowsTo u) {kind refdes : String} {row : Nat}
    (hrow : t.deviceByRefdes kind refdes = some row) : u.deviceByRefdes kind refdes = some row :=
  h.lookup_eq DeviceGroup.GrowsTo.byRefdes hrow

end Topology

/-! ## Documents with more devices -/

/-- The document with more devices behind its own. -/
def Document.withDevices (d : Document) (more : List DeviceDecl) : Document := { d with devices := d.devices ++ more }

/-- The further devices are added to the board that the document comes to by itself. -/
theorem Document.resolve_withDevices_eq_bind (d : Document) (more : List DeviceDecl) :
    (d.withDevices more).resolve = d.resolve >>= more.foldlM Topology.addDevice := by
  show (d.controllers.foldlM Topology.addController {} >>= (d.devices ++ more).foldlM Topology.addDevice) = _
  unfold resolve
  rw [bind_assoc]
  simp only [List.foldlM_append]

/-- **Devices behind those of a document disturb nothing.** If the document fails, it fails in the same way with them;
otherwise the board that it comes to with them, if it comes to one, has grown from its own, and every look-up that
succeeded gives the same device. -/
theorem Document.resolve_withDevices (d : Document) (more : List DeviceDecl) :
    (∀ e, d.resolve = .error e → (d.withDevices more).resolve = .error e) ∧
    ∀ t u, d.resolve = .ok t → (d.withDevices more).resolve = .ok u → t.GrowsTo u ∧
      (∀ kind name row, t.deviceByName kind name = some row → u.deviceByName kind name = some row) ∧
      ∀ kind refdes row, t.deviceByRefdes kind refdes = some row → u.deviceByRefdes kind refdes = some row := by
  rw [resolve_withDevices_eq_bind]
  constructor
  · intro e he
    rw [he]
    rfl
  · intro t u ht hu
    rw [ht] at hu
    have hgrown : t.GrowsTo u := Topology.growsTo_foldlM hu
    exact ⟨hgrown, fun _ _ _ => hgrown.deviceByName_eq, fun _ _ _ => hgrown.deviceByRefdes_eq⟩

namespace SharedRail

/-- A phase controller on a bus, and a device of another kind. -/
def document : Document where
  controllers := [{ controller := 4, ports := .ofList [("F", { name := some "mid" })] }]
  devices := [
    { device := "raa229618", names := ["core"], bus := some "mid", address := 0x60, refdes := some "U7",
      sensors := { voltage := 2 }, power := some { rails := ["VDD", "VSS"], multiphase := true } },
    { device := "tmp117", bus := some "mid", address := 0x48, sensors := { temperature := 1 } }]

/-- Another phase controller of one of the rails on the same bus, and a device of a third kind. -/
def more : List DeviceDecl := [
  { device := "raa229618", names := ["second"], bus := some "mid", address := 0x61, refdes := some "U8",
    sensors := { voltage := 1 }, power := some { rails := ["VDD"], multiphase := true } },
  { device := "at24csw080", controller := some 4, address := 0x50 }]

def board : Topology := document.resolve.toOption.getD {}

def grown : Topology := (document.withDevices more).resolve.toOption.getD {}

/-- The group, the bus and the rail of the first device each get one more entry behind the one that they had. -/
theorem resolve_withDevices_phase :
    document.resolve = .ok board ∧ (document.withDevices more).resolve = .ok grown ∧
      (grown.group "raa229618").byBus.entries = [("mid", [0, 2])] ∧
      grown.rails.keys = ["VDD", "VSS"] ∧ board.GrowsTo grown ∧
      board.deviceByName "raa229618" "core" = some 0 ∧ grown.deviceByName "raa229618" "core" = some 0 := by
  have hboard : document.resolve = .ok board := rfl
  have hgrown : (document.withDevices more).resolve = .ok grown := rfl
  have hfound : board.deviceByName "raa229618" "core" = some 0 := by decide
  obtain ⟨hgrows, hnames, -⟩ := (Document.resolve_withDevices document more).2 board grown hboard hgrown
  exact ⟨hboard, hgrown, by decide, by decide, hgrows, hfound, hnames _ _ _ hfound⟩

end SharedRail

end I2cTopology
