import I2cTopology.Topology.Resolution
import I2cTopology.Proofs.Resolution.Devices

/-!
# The documents that describe a board

`Document.Valid` says what a document has to meet, in terms of its declarations alone. A document is resolved exactly
when it is valid (`Document.exists_resolve_iff`).

The walk over the devices knows, after each of them, what the tables hold of those that it has read
(`Topology.Covers`): where each one is, to whom identifiers lead, how many sensor ids are in use and who claims which
rail. With that, a device is added exactly when it is fit by itself, fits beside each earlier one and finds enough
sensor ids (`Topology.tracks_addDevice`).
-/

namespace I2cTopology

/-! ## What devices have to meet -/

/-- What a device has to meet by itself. -/
structure DeviceDecl.Fits (cs : List ControllerDecl) (d : DeviceDecl) : Prop where
  port : ∃ p, d.SitsOn cs p ∧ d.FitsPort p
  names : d.names.Nodup
  power : ∀ w, d.power = some w → w.Fits

/-- What two devices have to meet, of which `d` is the later one. -/
structure DeviceDecl.FitsBeside (cs : List ControllerDecl) (e d : DeviceDecl) : Prop where
  place : e.SharesPlace cs d → d.isAlias = true
  names : e.device = d.device → ∀ name ∈ e.names, name ∉ d.names
  refdes : e.device = d.device → ∀ refdes, e.refdes = some refdes → d.refdes ≠ some refdes
  /-- Devices of one kind share a rail only if both are phase controllers. -/
  rails : e.device = d.device → ∀ v w, e.power = some v → d.power = some w → ∀ rail, rail ≠ "" → rail ∈ v.rails →
    rail ∈ w.rails → v.multiphase = true ∧ w.multiphase = true

/-- What a document has to meet. -/
structure Document.Valid (d : Document) : Prop where
  controllers : ControllersFit d.controllers
  devices : ∀ e ∈ d.devices, e.Fits d.controllers
  pairs : d.devices.Pairwise (DeviceDecl.FitsBeside d.controllers)
  sensors : (d.devices.map (·.sensors.total)).sum < 2 ^ 32

/-! ## What the tables hold of the devices -/

/-- A device is on the port that it sits on. -/
def DeviceDecl.PlacedAs (cs : List ControllerDecl) (d : DeviceDecl) (b : BoardDevice) : Prop :=
  ∃ slot p, (portSites cs)[slot]? = some p ∧ d.SitsOn cs p ∧ d.FitsPort p ∧
    b = d.row p slot (muxCount ((portSites cs).take slot))

/-- The claims of some devices, the first of which is in row `start`, to a rail. -/
def railClaims (rail : String) : Nat → List DeviceDecl → List RailClaim
  | _, [] => []
  | start, d :: ds =>
    (match d.power with
      | some w => w.claims start w.rails.zipIdx rail
      | none => []) ++ railClaims rail (start + 1) ds

/-- The tables are those of the controllers and hold exactly the given devices. -/
structure Topology.Covers (t : Topology) (cs : List ControllerDecl) (ds : List DeviceDecl) : Prop where
  declares : t.Declares cs
  length_devices : t.devices.length = ds.length
  placed : ∀ (row : Nat) (d : DeviceDecl), ds[row]? = some d → ∃ b, t.devices[row]? = some b ∧ d.PlacedAs cs b
  names : ∀ kind, Leads (t.group kind).byName kind (·.names) ds
  refdes : ∀ kind, Leads (t.group kind).byRefdes kind (·.refdes.toList) ds
  sensors : t.sensors.total = (ds.map (·.sensors.total)).sum
  sensors_lt : t.sensors.total < sensorIdLimit
  rails : ∀ rail, rail ≠ "" → (t.rails.get? rail).getD [] = railClaims rail 0 ds

theorem railClaims_append (rail : String) (start : Nat) (ds es : List DeviceDecl) :
    railClaims rail start (ds ++ es) = railClaims rail start ds ++ railClaims rail (start + ds.length) es := by
  induction ds generalizing start with
  | nil => rfl
  | cons d ds ih =>
    rw [List.cons_append, railClaims, railClaims, ih, List.append_assoc, List.length_cons,
      Nat.add_assoc, Nat.add_comm 1]

/-- The shares of a device in a rail are at the positions at which it lists the rail. -/
theorem PowerDecl.mem_claims_iff {w : PowerDecl} {row : Nat} {rail : String} {claim : RailClaim} :
    claim ∈ w.claims row w.rails.zipIdx rail ↔ claim.device = row ∧ w.rails[claim.index]? = some rail ∧
      claim.phases = w.phases.bind (·[claim.index]?) := by
  simp only [claims, List.mem_map, List.mem_filter, beq_iff_eq]
  constructor
  · rintro ⟨e, ⟨he, rfl⟩, rfl⟩
    exact ⟨rfl, List.mem_zipIdx_iff_getElem?.mp he, rfl⟩
  · rintro ⟨rfl, hindex, hphases⟩
    refine ⟨(rail, claim.index), ⟨List.mem_zipIdx_iff_getElem?.mpr hindex, rfl⟩, ?_⟩
    rw [← hphases]

theorem mem_railClaims_iff {rail : String} {claim : RailClaim} {start : Nat} {ds : List DeviceDecl} :
    claim ∈ railClaims rail start ds ↔ ∃ i d w, claim.device = start + i ∧ ds[i]? = some d ∧ d.power = some w ∧
      w.rails[claim.index]? = some rail ∧ claim.phases = w.phases.bind (·[claim.index]?) := by
  induction ds generalizing start with
  | nil => simp [railClaims]
  | cons d ds ih =>
    have hfirst : claim ∈ (match d.power with
        | some w => w.claims start w.rails.zipIdx rail
        | none => []) ↔ ∃ w, claim.device = start ∧ d.power = some w ∧ w.rails[claim.index]? = some rail ∧
          claim.phases = w.phases.bind (·[claim.index]?) := by
      cases d.power <;> simp [PowerDecl.mem_claims_iff]
    rw [railClaims, List.mem_append, hfirst, ih]
    constructor
    · rintro (⟨w, hrow, hw, hshare⟩ | ⟨i, e, w, hrow, he, hw, hshare⟩)
      · exact ⟨0, d, w, hrow, rfl, hw, hshare⟩
      · exact ⟨i + 1, e, w, by omega, he, hw, hshare⟩
    · rintro ⟨i, e, w, hrow, he, hw, hshare⟩
      cases i with
      | zero =>
        obtain rfl := Option.some.inj he
        exact Or.inl ⟨w, hrow, hw, hshare⟩
      | succ i => exact Or.inr ⟨i, e, w, by omega, he, hw, hshare⟩

/-- A claim to a rail is by a device that lists the rail. -/
theorem mem_railClaims {rail : String} {claim : RailClaim} {start : Nat} {ds : List DeviceDecl}
    (h : claim ∈ railClaims rail start ds) :
    ∃ i d w, claim.device = start + i ∧ ds[i]? = some d ∧ d.power = some w ∧ rail ∈ w.rails := by
  obtain ⟨i, d, w, hrow, hd, hw, hindex, -⟩ := mem_railClaims_iff.mp h
  exact ⟨i, d, w, hrow, hd, hw, List.mem_of_getElem? hindex⟩

/-- A device that lists a rail has a claim to it. -/
theorem exists_mem_railClaims {rail : String} {d : DeviceDecl} {w : PowerDecl} (hw : d.power = some w)
    (hrail : rail ∈ w.rails) (start i : Nat) {ds : List DeviceDecl} (h : ds[i]? = some d) :
    ∃ claim ∈ railClaims rail start ds, claim.device = start + i := by
  obtain ⟨index, hindex⟩ := List.getElem?_of_mem hrail
  exact ⟨⟨start + i, index, w.phases.bind (·[index]?)⟩, mem_railClaims_iff.mpr ⟨i, d, w, rfl, h, hw, hindex, rfl⟩, rfl⟩

/-! ## Adding a device -/

namespace Topology

/-- The rails after a device got its shares, if it declares any power. -/
def claimPower (t : Topology) (d : DeviceDecl) : Except TopologyError (OrderedMap String (List RailClaim)) :=
  match d.power with
  | some power => t.claimRails t.devices.length d power
  | none => .ok t.rails

theorem addDevice_eq_ok_iff {t u : Topology} {d : DeviceDecl} : t.addDevice d = .ok u ↔
    ∃ b group sensors rails, t.placeDevice d = .ok b ∧ (t.group b.kind).add t.devices.length b = .ok group ∧
      t.sensors.add t.devices.length d.sensors = .ok sensors ∧ t.claimPower d = .ok rails ∧
      u = { t with devices := t.devices ++ [b], groups := t.groups.insert b.kind group, sensors, rails } := by
  have hstep : t.addDevice d = t.placeDevice d >>= fun b =>
      (t.group b.kind).add t.devices.length b >>= fun group =>
      t.sensors.add t.devices.length d.sensors >>= fun sensors =>
      t.claimPower d >>= fun rails =>
      .ok { t with devices := t.devices ++ [b], groups := t.groups.insert b.kind group, sensors, rails } := by
    unfold addDevice claimPower
    cases d.power <;> rfl
  simp [hstep, eq_comm (a := u)]

namespace Covers

variable {t u : Topology} {cs : List ControllerDecl} {ds : List DeviceDecl} {d : DeviceDecl} {b : BoardDevice}

/-- Each row of the table of devices is that of a declared one. -/
theorem exists_placedAs (h : t.Covers cs ds) {row : Nat} (hb : t.devices[row]? = some b) :
    ∃ e, ds[row]? = some e ∧ e.PlacedAs cs b := by
  have hlt := (List.getElem?_eq_some_iff.mp hb).1
  rw [h.length_devices] at hlt
  obtain ⟨b', hb', hplaced⟩ := h.placed row ds[row] (List.getElem?_eq_getElem hlt)
  obtain rfl := Option.some.inj (hb.symm.trans hb')
  exact ⟨ds[row], List.getElem?_eq_getElem hlt, hplaced⟩

/-- A device is placed exactly when it sits on a port that it fits and shares its place with no earlier one, or is an
alias. -/
theorem exists_placeDevice_iff (h : t.Covers cs ds) (hf : ControllersFit cs) : (∃ b, t.placeDevice d = .ok b) ↔
    (∃ p, d.SitsOn cs p ∧ d.FitsPort p) ∧ ∀ e ∈ ds, e.SharesPlace cs d → d.isAlias = true := by
  simp only [h.declares.placeDevice_eq_ok_iff hf]
  constructor
  · rintro ⟨_, slot, p, hp, hs, hfits, hplace, rfl⟩
    refine ⟨⟨p, hs, hfits⟩, fun e he hshare => ?_⟩
    obtain ⟨row, hrow⟩ := List.getElem?_of_mem he
    obtain ⟨_, hb, other, q, hq, hsq, hfq, rfl⟩ := h.placed row e hrow
    refine hplace _ (List.mem_of_getElem? hb) ?_
    exact (hf.placeOn_eq_iff hq hp hsq hs hfq.route hfits.route).mpr hshare
  · rintro ⟨⟨p, hs, hfits⟩, hshare⟩
    obtain ⟨slot, hp⟩ := List.getElem?_of_mem hs.mem
    refine ⟨_, slot, p, hp, hs, hfits, fun b hb hplace => ?_, rfl⟩
    obtain ⟨row, hrow⟩ := List.getElem?_of_mem hb
    obtain ⟨e, he, other, q, hq, hsq, hfq, rfl⟩ := h.exists_placedAs hrow
    have hshared := (hf.placeOn_eq_iff hq hp hsq hs hfq.route hfits.route).mp hplace
    exact hshare e (List.mem_of_getElem? he) hshared

theorem placedAs (h : t.Covers cs ds) (hf : ControllersFit cs) (hb : t.placeDevice d = .ok b) : d.PlacedAs cs b := by
  obtain ⟨slot, p, hp, hs, hfits, -, hrow⟩ := (h.declares.placeDevice_eq_ok_iff hf d b).mp hb
  exact ⟨slot, p, hp, hs, hfits, hrow⟩

/-- A placed device is entered in its group exactly when no other of its kind has one of its identifiers. -/
theorem exists_add_iff (h : t.Covers cs ds) (hb : d.PlacedAs cs b) (row : Nat) :
    (∃ group, (t.group b.kind).add row b = .ok group) ↔ d.names.Nodup ∧
      (∀ e ∈ ds, e.device = d.device → ∀ name ∈ e.names, name ∉ d.names) ∧
      ∀ e ∈ ds, e.device = d.device → ∀ refdes, e.refdes = some refdes → d.refdes ≠ some refdes := by
  obtain ⟨slot, p, -, -, -, rfl⟩ := hb
  have hrefdes := (h.refdes d.device).forall_get?_eq_none_iff d.refdes.toList
  simp only [Option.mem_toList] at hrefdes
  simp only [DeviceGroup.add_eq_ok_iff, exists_and_left, exists_eq, and_true]
  refine and_congr_right fun _ => and_congr ((h.names d.device).forall_get?_eq_none_iff d.names) ?_
  simp only [Option.mem_toList]
  exact hrefdes

theorem claimsBefore (h : t.Covers cs ds) : ClaimsBefore t.rails t.devices.length := by
  intro rail hrail claim hclaim
  rw [h.rails rail hrail] at hclaim
  obtain ⟨i, e, w, hrow, he, -, -⟩ := mem_railClaims hclaim
  have hlt := (List.getElem?_eq_some_iff.mp he).1
  rw [hrow, h.length_devices]
  omega

/-- A claim of an earlier device excludes one by a device of the same kind, unless both are phase controllers. -/
theorem isExcluded_eq_false_iff (h : t.Covers cs ds) {claim : RailClaim} {e : DeviceDecl} {v : PowerDecl}
    (he : ds[claim.device]? = some e) (hv : e.power = some v) (kind : String) (multiphase : Bool) :
    t.isExcluded t.devices.length kind multiphase claim = false ↔
      (e.device = kind → v.multiphase = true ∧ multiphase = true) := by
  have hlt := (List.getElem?_eq_some_iff.mp he).1
  obtain ⟨_, hb, slot, p, -, -, -, rfl⟩ := h.placed claim.device e he
  have hrow : (claim.device == t.devices.length) = false := by
    rw [beq_eq_false_iff_ne, h.length_devices]
    omega
  simp only [isExcluded, hrow, hb, DeviceDecl.row, hv, Option.map_some, Option.any_some, Bool.false_or,
    Bool.and_eq_false_iff, beq_eq_false_iff_ne, Bool.not_eq_false', Bool.and_eq_true]
  rw [imp_iff_not_or, and_comm]

/-- A device gets its shares in rails exactly when its power declaration fits and each earlier device of its kind
leaves it every rail that it lists too. -/
theorem exists_claimPower_iff (h : t.Covers cs ds) : (∃ rails, t.claimPower d = .ok rails) ↔
    (∀ w, d.power = some w → w.Fits) ∧ ∀ e ∈ ds, e.device = d.device → ∀ v w, e.power = some v → d.power = some w →
      ∀ rail, rail ≠ "" → rail ∈ v.rails → rail ∈ w.rails → v.multiphase = true ∧ w.multiphase = true := by
  unfold claimPower
  cases hw : d.power with
  | none => simp
  | some w =>
    simp only [exists_claimRails_iff h.claimsBefore, Option.some.injEq, forall_eq']
    refine and_congr_right fun _ => ?_
    constructor
    · rintro hfree e he hkind v _ hv rfl rail hrail hmem hmem'
      obtain ⟨i, hi⟩ := List.getElem?_of_mem he
      obtain ⟨claim, hclaim, hrow⟩ := exists_mem_railClaims hv hmem 0 i hi
      rw [Nat.zero_add] at hrow
      rw [← h.rails rail hrail] at hclaim
      have hallowed := hfree rail hmem' hrail claim hclaim
      exact (h.isExcluded_eq_false_iff (hrow ▸ hi) hv d.device w.multiphase).mp hallowed hkind
    · intro hshare rail hmem hrail claim hclaim
      rw [h.rails rail hrail] at hclaim
      obtain ⟨i, e, v, hrow, he, hv, hmem'⟩ := mem_railClaims hclaim
      rw [Nat.zero_add] at hrow
      exact (h.isExcluded_eq_false_iff (hrow ▸ he) hv d.device w.multiphase).mpr fun hkind =>
        hshare e (List.mem_of_getElem? he) hkind v w hv rfl rail hrail hmem' hmem

theorem addDevice (h : t.Covers cs ds) (hf : ControllersFit cs) (hu : t.addDevice d = .ok u) :
    u.Covers cs (ds ++ [d]) := by
  obtain ⟨b, group, sensors, rails, hb, hgroup, hsensors, hrails, rfl⟩ := addDevice_eq_ok_iff.mp hu
  have hplaced := h.placedAs hf hb
  obtain ⟨htotal, hlt⟩ := SensorTable.total_add h.sensors_lt hsensors
  obtain ⟨⟨-, hnames, hrefdes⟩, rfl⟩ := DeviceGroup.add_eq_ok_iff.mp hgroup
  have hkind : b.kind = d.device ∧ b.names = d.names ∧ b.refdes = d.refdes := by
    obtain ⟨_, _, -, -, -, rfl⟩ := hplaced
    exact ⟨rfl, rfl, rfl⟩
  obtain ⟨hk, hn, hr⟩ := hkind
  rw [hk, hn] at hnames
  rw [hk, hr] at hrefdes
  refine ⟨⟨h.declares.controllers_eq, h.declares.ports_eq, h.declares.muxes_eq⟩, ?_, ?_, ?_, ?_, ?_, hlt, ?_⟩
  · simp only [List.length_append, List.length_singleton, h.length_devices]
  · intro row e he
    simp only [KeyedList.getElem?_concat_eq_some_iff]
    rcases KeyedList.getElem?_concat_eq_some_iff.mp he with hold | ⟨rfl, rfl⟩
    · obtain ⟨c, hc, hplace⟩ := h.placed row e hold
      exact ⟨c, Or.inl hc, hplace⟩
    · exact ⟨b, Or.inr ⟨h.length_devices.symm, rfl⟩, hplaced⟩
  · intro kind
    show Leads (((t.groups.insert b.kind _).get? kind).getD {}).byName kind _ _
    rw [hk]
    refine leads_insert h.names hnames ?_ kind
    rw [DeviceGroup.enter, hn, h.length_devices]
  · intro kind
    show Leads (((t.groups.insert b.kind _).get? kind).getD {}).byRefdes kind _ _
    rw [hk]
    refine leads_insert h.refdes hrefdes ?_ kind
    rw [DeviceGroup.enter, hr, h.length_devices]
  · rw [htotal, h.sensors, List.map_append, List.sum_append]
    simp
  · intro rail hrail
    rw [railClaims_append, ← h.rails rail hrail, Nat.zero_add, railClaims, railClaims, List.append_nil,
      ← h.length_devices]
    unfold claimPower at hrails
    cases hw : d.power with
    | none =>
      simp only [hw, Except.ok.injEq] at hrails
      rw [← hrails, List.append_nil]
    | some w =>
      simp only [hw] at hrails
      exact get?_claimRails h.claimsBefore hrails hrail

end Covers

/-- The walk over the devices of a document. -/
theorem tracks_addDevice {cs : List ControllerDecl} (hf : ControllersFit cs) :
    Tracks addDevice (fun before t => t.Covers cs before) (fun before d => d.Fits cs ∧
      (∀ e ∈ before, e.FitsBeside cs d) ∧ ((before ++ [d]).map (·.sensors.total)).sum ≤ sensorIdLimit - 1) := by
  have hsum : ∀ (before : List DeviceDecl) (d : DeviceDecl) (t : Topology), t.Covers cs before →
      (t.sensors.total + d.sensors.total < sensorIdLimit ↔
        ((before ++ [d]).map (·.sensors.total)).sum ≤ sensorIdLimit - 1) := fun before d t h => by
    rw [List.map_append, List.sum_append, ← h.sensors]
    simp only [List.map_singleton, List.sum_singleton]
    have := h.sensors_lt
    omega
  refine ⟨?_, ?_, ?_⟩
  · rintro before t d h ⟨hfits, hbeside, htotal⟩
    obtain ⟨b, hb⟩ := (h.exists_placeDevice_iff hf).mpr ⟨hfits.port, fun e he => (hbeside e he).place⟩
    obtain ⟨group, hgroup⟩ := (h.exists_add_iff (h.placedAs hf hb) t.devices.length).mpr
      ⟨hfits.names, fun e he => (hbeside e he).names, fun e he => (hbeside e he).refdes⟩
    obtain ⟨sensors, hsensors⟩ := (SensorTable.exists_add_iff t.devices.length h.sensors_lt).mpr
      ((hsum before d t h).mpr htotal)
    obtain ⟨rails, hrails⟩ := h.exists_claimPower_iff.mpr ⟨hfits.power, fun e he => (hbeside e he).rails⟩
    exact ⟨_, addDevice_eq_ok_iff.mpr ⟨b, group, sensors, rails, hb, hgroup, hsensors, hrails, rfl⟩⟩
  · rintro before t d u h hu
    obtain ⟨b, group, sensors, rails, hb, hgroup, hsensors, hrails, -⟩ := addDevice_eq_ok_iff.mp hu
    obtain ⟨hport, hplace⟩ := (h.exists_placeDevice_iff hf).mp ⟨b, hb⟩
    obtain ⟨hn, hnames, hrefdes⟩ := (h.exists_add_iff (h.placedAs hf hb) t.devices.length).mp ⟨group, hgroup⟩
    obtain ⟨hpower, hshares⟩ := h.exists_claimPower_iff.mp ⟨rails, hrails⟩
    refine ⟨⟨hport, hn, hpower⟩, fun e he => ⟨hplace e he, hnames e he, hrefdes e he, hshares e he⟩, ?_⟩
    exact (hsum before d t h).mp ((SensorTable.exists_add_iff t.devices.length h.sensors_lt).mp ⟨sensors, hsensors⟩)
  · intro before t d u h hu
    exact h.addDevice hf hu

theorem covers_ofControllers (cs : List ControllerDecl) : (ofControllers cs).Covers cs [] := by
  have hgroup : ∀ kind, (ofControllers cs).group kind = {} := fun _ => rfl
  refine ⟨⟨rfl, rfl, rfl⟩, rfl, ?_, ?_, ?_, rfl, ?_, ?_⟩
  · intro row d h
    cases h
  · intro kind
    rw [hgroup]
    exact Leads.empty _ _
  · intro kind
    rw [hgroup]
    exact Leads.empty _ _
  · show 0 < sensorIdLimit
    unfold sensorIdLimit
    omega
  · intro rail _
    rfl

end Topology

/-! ## Whole documents -/

/-- A document that is resolved comes to tables that cover its controllers and devices. -/
theorem Document.covers_of_resolve {d : Document} {t : Topology} (h : d.resolve = .ok t) :
    t.Covers d.controllers d.devices := by
  obtain ⟨s, hs, ht⟩ := bind_eq_ok_iff.mp h
  obtain ⟨hf, rfl⟩ := foldlM_addController_eq_ok_iff.mp hs
  exact (Topology.tracks_addDevice hf).keeps_foldlM (Topology.covers_ofControllers d.controllers) ht

/-- What adding a device keeps holds of the tables of a document that is resolved. -/
theorem Document.knows_of_resolve {d : Document} {t : Topology} (h : d.resolve = .ok t)
    (knows : List DeviceDecl → Topology → Prop) (hstart : knows [] (Topology.ofControllers d.controllers))
    (hstep : ∀ {ds t e u}, t.Covers d.controllers ds → knows ds t → t.addDevice e = .ok u → knows (ds ++ [e]) u) :
    knows d.devices t := by
  obtain ⟨s, hs, ht⟩ := bind_eq_ok_iff.mp h
  obtain ⟨hf, rfl⟩ := foldlM_addController_eq_ok_iff.mp hs
  have hwalk := foldlM_keeps (fun before t => t.Covers d.controllers before ∧ knows before t)
    (fun hbefore hu => ⟨hbefore.1.addDevice hf hu, hstep hbefore.1 hbefore.2 hu⟩) []
    ⟨Topology.covers_ofControllers d.controllers, hstart⟩ ht
  exact hwalk.2

theorem Document.controllersFit_of_resolve {d : Document} {t : Topology} (h : d.resolve = .ok t) :
    ControllersFit d.controllers := by
  obtain ⟨s, hs, -⟩ := bind_eq_ok_iff.mp h
  exact (foldlM_addController_eq_ok_iff.mp hs).1

/-- Each device of a document that is resolved fits beside the earlier ones. -/
theorem Document.fitsBeside_of_resolve {d : Document} {t : Topology} (h : d.resolve = .ok t) :
    d.devices.Pairwise (DeviceDecl.FitsBeside d.controllers) := by
  obtain ⟨s, hs, ht⟩ := bind_eq_ok_iff.mp h
  obtain ⟨hf, rfl⟩ := foldlM_addController_eq_ok_iff.mp hs
  have hall := ((Topology.tracks_addDevice hf).exists_foldlM_iff (Topology.covers_ofControllers d.controllers)).mp
    ⟨t, ht⟩
  refine eachAfter_pairwise.mp (hall.imp fun before e he => ?_)
  exact he.2.1

/-- Each device of a document that is resolved is fit by itself. -/
theorem Document.fits_of_resolve {d : Document} {t : Topology} (h : d.resolve = .ok t) :
    ∀ e ∈ d.devices, e.Fits d.controllers := by
  obtain ⟨s, hs, ht⟩ := bind_eq_ok_iff.mp h
  obtain ⟨hf, rfl⟩ := foldlM_addController_eq_ok_iff.mp hs
  have hall := ((Topology.tracks_addDevice hf).exists_foldlM_iff (Topology.covers_ofControllers d.controllers)).mp
    ⟨t, ht⟩
  exact eachAfter_const.mp (hall.imp fun before e he => he.1)

/-- A document is resolved exactly when it is valid. -/
theorem Document.exists_resolve_iff (d : Document) : (∃ t, d.resolve = .ok t) ↔ d.Valid := by
  have hdevices : ∀ hf : ControllersFit d.controllers,
      (∃ t, d.devices.foldlM Topology.addDevice (Topology.ofControllers d.controllers) = .ok t) ↔
        (∀ e ∈ d.devices, e.Fits d.controllers) ∧ d.devices.Pairwise (DeviceDecl.FitsBeside d.controllers) ∧
          (d.devices.map (·.sensors.total)).sum ≤ sensorIdLimit - 1 := fun hf => by
    rw [(Topology.tracks_addDevice hf).exists_foldlM_iff (Topology.covers_ofControllers d.controllers), eachAfter_and,
      eachAfter_and, eachAfter_const, eachAfter_pairwise, eachAfter_sum_le (Nat.zero_le _)]
    rfl
  have hlimit : (d.devices.map (·.sensors.total)).sum ≤ sensorIdLimit - 1 ↔
      (d.devices.map (·.sensors.total)).sum < 2 ^ 32 := by
    unfold sensorIdLimit
    omega
  simp only [resolve, bind_eq_ok_iff, foldlM_addController_eq_ok_iff]
  constructor
  · rintro ⟨t, _, ⟨hf, rfl⟩, ht⟩
    obtain ⟨hfit, hpairs, hsensors⟩ := (hdevices hf).mp ⟨t, ht⟩
    exact ⟨hf, hfit, hpairs, hlimit.mp hsensors⟩
  · intro h
    obtain ⟨t, ht⟩ := (hdevices h.controllers).mpr ⟨h.devices, h.pairs, hlimit.mpr h.sensors⟩
    exact ⟨t, _, ⟨h.controllers, rfl⟩, ht⟩

end I2cTopology
