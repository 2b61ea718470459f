import I2cTopology.Proofs.Resolution.Places

/-!
# Names, sensors and rails of a device

What each part of adding a device checks and leaves: the identifiers under which it is entered in the group of its
kind (`DeviceGroup.add_eq_ok_iff`), the sensor ids that it takes (`SensorTable.exists_add_iff`,
`SensorTable.total_add`), and its shares in power rails (`Topology.exists_claimRails_iff`,
`Topology.get?_claimRails`).
-/

namespace I2cTopology

/-! ## Identifiers -/

/-- Identifiers are entered exactly when they are distinct and new. -/
theorem foldlM_identify_eq_ok_iff (kind : String) (identity : Identity) (row : Nat) {ids : List String}
    {known m : OrderedMap String Nat} : ids.foldlM (identify kind identity row) known = .ok m ↔
      (ids.Nodup ∧ ∀ i ∈ ids, known.get? i = none) ∧ m = ids.foldl (fun m i => m.insert i row) known := by
  induction ids generalizing known with
  | nil => simp [pure, Except.pure, eq_comm]
  | cons i ids ih =>
    have hstep : ∀ u, identify kind identity row known i = .ok u ↔ known.get? i = none ∧ u = known.insert i row :=
      fun u => by
        simp [identify, @eq_comm _ u]
    rw [List.foldlM_cons, bind_eq_ok_iff, List.nodup_cons, List.forall_mem_cons, List.foldl_cons]
    constructor
    · rintro ⟨u, hu, hm⟩
      obtain ⟨hi, rfl⟩ := (hstep u).mp hu
      obtain ⟨⟨hn, hnew⟩, rfl⟩ := ih.mp hm
      refine ⟨⟨⟨fun hmem => ?_, hn⟩, hi, fun j hj => ?_⟩, rfl⟩
      · have hfound := hnew i hmem
        rw [OrderedMap.get?_insert, if_pos rfl] at hfound
        cases hfound
      · have hnone := hnew j hj
        rw [OrderedMap.get?_insert] at hnone
        split at hnone
        · cases hnone
        · exact hnone
    · rintro ⟨⟨⟨hmem, hn⟩, hi, hnew⟩, rfl⟩
      refine ⟨_, (hstep _).mpr ⟨hi, rfl⟩, ih.mpr ⟨⟨hn, fun j hj => ?_⟩, rfl⟩⟩
      rw [OrderedMap.get?_insert, if_neg fun e : j = i => hmem (e ▸ hj)]
      exact hnew j hj

theorem get?_foldl_insert (row : Nat) (j : String) (ids : List String) (known : OrderedMap String Nat) :
    (ids.foldl (fun m i => m.insert i row) known).get? j = if j ∈ ids then some row else known.get? j := by
  induction ids generalizing known with
  | nil => simp
  | cons i ids ih =>
    rw [List.foldl_cons, ih, OrderedMap.get?_insert]
    by_cases hj : j ∈ ids
    · simp [hj]
    · simp [hj]

/-- A map leads from identifiers to the rows of the devices of a kind that have them. -/
def Leads (known : OrderedMap String Nat) (kind : String) (identifiers : DeviceDecl → List String)
    (ds : List DeviceDecl) : Prop :=
  ∀ i row, known.get? i = some row ↔ ∃ d, ds[row]? = some d ∧ d.device = kind ∧ i ∈ identifiers d

namespace Leads

variable {known : OrderedMap String Nat} {kind : String} {identifiers : DeviceDecl → List String}
  {ds : List DeviceDecl} {d : DeviceDecl}

theorem empty (kind : String) (identifiers : DeviceDecl → List String) : Leads {} kind identifiers [] := by
  intro i row
  rw [show OrderedMap.get? ({} : OrderedMap String Nat) i = none from rfl]
  simp

/-- Identifiers are new exactly when no device of the kind has one of them. -/
theorem forall_get?_eq_none_iff (h : Leads known kind identifiers ds) (ids : List String) :
    (∀ i ∈ ids, known.get? i = none) ↔ ∀ e ∈ ds, e.device = kind → ∀ i ∈ identifiers e, i ∉ ids := by
  simp only [Option.eq_none_iff_forall_ne_some, ne_eq, h _ _, not_exists, not_and]
  constructor
  · intro hnew e he hkind i hi hmem
    obtain ⟨row, hrow⟩ := List.getElem?_of_mem he
    exact hnew i hmem row e hrow hkind hi
  · intro hnew i hmem row e hrow hkind hi
    exact hnew e (List.mem_of_getElem? hrow) hkind i hi hmem

/-- One more device of the kind, with new identifiers. -/
theorem enter (h : Leads known kind identifiers ds) (hkind : d.device = kind)
    (hnew : ∀ i ∈ identifiers d, known.get? i = none) :
    Leads ((identifiers d).foldl (fun m i => m.insert i ds.length) known) kind identifiers (ds ++ [d]) := by
  intro i row
  rw [get?_foldl_insert]
  simp only [KeyedList.getElem?_concat_eq_some_iff, or_and_right, exists_or, and_assoc, exists_and_left,
    exists_eq_left, hkind, true_and]
  rw [← h i row]
  split
  · rename_i hi
    rw [hnew i hi]
    simp [hi, eq_comm]
  · rename_i hi
    simp [hi]

/-- One more device of another kind. -/
theorem other (h : Leads known kind identifiers ds) (hkind : d.device ≠ kind) :
    Leads known kind identifiers (ds ++ [d]) := by
  intro i row
  rw [h i row]
  simp only [KeyedList.getElem?_concat_eq_some_iff, or_and_right, exists_or, and_assoc, exists_and_left,
    exists_eq_left, hkind, false_and, and_false, or_false]

end Leads

/-- The group of a kind; a kind that has none has an empty one. -/
def Topology.group (t : Topology) (kind : String) : DeviceGroup := (t.groups.get? kind).getD {}

/-- Putting back the group of a kind, to which a device has been added, enters the device there and nowhere else. -/
theorem Topology.leads_insert {t : Topology} {ds : List DeviceDecl} {d : DeviceDecl}
    {part : DeviceGroup → OrderedMap String Nat} {identifiers : DeviceDecl → List String}
    (h : ∀ kind, Leads (part (t.group kind)) kind identifiers ds)
    (hnew : ∀ i ∈ identifiers d, (part (t.group d.device)).get? i = none) {g : DeviceGroup}
    (hg : part g = (identifiers d).foldl (fun m i => m.insert i ds.length) (part (t.group d.device))) (kind : String) :
    Leads (part (((t.groups.insert d.device g).get? kind).getD {})) kind identifiers (ds ++ [d]) := by
  rw [OrderedMap.get?_insert]
  split
  · rename_i hsame
    subst hsame
    rw [Option.getD_some, hg]
    exact (h d.device).enter rfl hnew
  · rename_i hne
    exact (h kind).other (Ne.symm hne)

/-- A group with one more device. -/
def DeviceGroup.enter (g : DeviceGroup) (row : Nat) (d : BoardDevice) : DeviceGroup :=
  { devices := g.devices ++ [row]
    byName := d.names.foldl (fun m i => m.insert i row) g.byName
    byRefdes := d.refdes.toList.foldl (fun m i => m.insert i row) g.byRefdes
    byBus := d.bus.toList.foldl (fun m bus => m.upsert bus fun rows => rows.getD [] ++ [row]) g.byBus }

/-- A device is added to a group exactly when its names are distinct and new and so is its designator. -/
theorem DeviceGroup.add_eq_ok_iff {g h : DeviceGroup} {row : Nat} {d : BoardDevice} : g.add row d = .ok h ↔
    (d.names.Nodup ∧ (∀ name ∈ d.names, g.byName.get? name = none) ∧
      ∀ refdes ∈ d.refdes.toList, g.byRefdes.get? refdes = none) ∧ h = g.enter row d := by
  simp only [add, bind_eq_ok_iff, foldlM_identify_eq_ok_iff, Except.ok.injEq]
  constructor
  · rintro ⟨_, ⟨⟨hn, hnames⟩, rfl⟩, _, ⟨⟨-, hrefdes⟩, rfl⟩, rfl⟩
    exact ⟨⟨hn, hnames, hrefdes⟩, rfl⟩
  · rintro ⟨⟨hn, hnames, hrefdes⟩, rfl⟩
    refine ⟨_, ⟨⟨hn, hnames⟩, rfl⟩, _, ⟨⟨?_, hrefdes⟩, rfl⟩, rfl⟩
    cases d.refdes <;> simp

/-! ## Sensors -/

/-- The number of sensors on a device. -/
def SensorDecl.total (s : SensorDecl) : Nat := (SensorKind.all.map fun kind => (s.count kind).toNat).sum

/-- The walk over the kinds of sensors of a device. -/
theorem SensorRuns.tracks_take (sensors : SensorDecl) {base : Nat} (hbase : base < sensorIdLimit) :
    Tracks (SensorRuns.take sensors)
      (fun before s => s.table.total = base + (before.map fun kind => (sensors.count kind).toNat).sum ∧
        s.table.total < sensorIdLimit)
      (fun before kind => ((before ++ [kind]).map fun kind => (sensors.count kind).toNat).sum ≤
        sensorIdLimit - 1 - base) := by
  have hstep : ∀ s kind t, SensorRuns.take sensors s kind = .ok t →
      s.table.total + (sensors.count kind).toNat = t.table.total ∧
        ((sensors.count kind).toNat ≠ 0 → t.table.total < sensorIdLimit) := by
    intro s kind t ht
    simp only [take] at ht
    split at ht
    · rename_i hzero
      obtain rfl := Except.ok.inj ht
      exact ⟨by rw [hzero]; rfl, fun h => absurd hzero h⟩
    · simp at ht
      obtain ⟨hlt, rfl⟩ := ht
      exact ⟨rfl, fun _ => hlt⟩
  refine ⟨?_, ?_, ?_⟩
  · rintro before s kind ⟨htotal, hlt⟩ hgood
    rw [List.map_append, List.sum_append] at hgood
    simp only [List.map_singleton, List.sum_singleton] at hgood
    simp only [take]
    split
    · exact ⟨_, rfl⟩
    · simp
      omega
  · rintro before s kind t ⟨htotal, hlt⟩ ht
    obtain ⟨hsum, hbound⟩ := hstep s kind t ht
    rw [List.map_append, List.sum_append]
    simp only [List.map_singleton, List.sum_singleton]
    by_cases hzero : (sensors.count kind).toNat = 0
    · omega
    · have := hbound hzero
      omega
  · rintro before s kind t ⟨htotal, hlt⟩ ht
    obtain ⟨hsum, hbound⟩ := hstep s kind t ht
    rw [List.map_append, List.sum_append]
    simp only [List.map_singleton, List.sum_singleton]
    refine ⟨by omega, ?_⟩
    by_cases hzero : (sensors.count kind).toNat = 0
    · omega
    · exact hbound hzero

namespace SensorTable

variable {table u : SensorTable} {row : Nat} {sensors : SensorDecl}

/-- A device gets its sensor ids exactly when there are enough. -/
theorem exists_add_iff (row : Nat) (h : table.total < sensorIdLimit) :
    (∃ u, table.add row sensors = .ok u) ↔ table.total + sensors.total < sensorIdLimit := by
  have hwalk := SensorRuns.tracks_take sensors h
  have hruns : (∃ runs, SensorKind.all.foldlM (SensorRuns.take sensors) ⟨[], table⟩ = .ok runs) ↔
      EachAfter _ [] SensorKind.all := hwalk.exists_foldlM_iff ⟨by simp, h⟩
  rw [eachAfter_sum_le (by simp)] at hruns
  have hadd : (∃ u, table.add row sensors = .ok u) ↔
      ∃ runs, SensorKind.all.foldlM (SensorRuns.take sensors) ⟨[], table⟩ = .ok runs := by
    simp [add]
  rw [hadd, hruns]
  show sensors.total ≤ _ ↔ _
  omega

theorem total_add (h : table.total < sensorIdLimit) (hu : table.add row sensors = .ok u) :
    u.total = table.total + sensors.total ∧ u.total < sensorIdLimit := by
  simp [add] at hu
  obtain ⟨runs, hruns, rfl⟩ := hu
  have hstart : table.total = table.total + (([] : List SensorKind).map fun kind => (sensors.count kind).toNat).sum ∧
      table.total < sensorIdLimit := ⟨rfl, h⟩
  exact (SensorRuns.tracks_take sensors h).keeps_foldlM hstart hruns

end SensorTable

/-! ## Rails -/

/-- The shares in a rail that the entries of a list of rails give to the device in row `row`. -/
def PowerDecl.claims (w : PowerDecl) (row : Nat) (entries : List (String × Nat)) (rail : String) : List RailClaim :=
  (entries.filter (·.1 == rail)).map fun e => ⟨row, e.2, w.phases.bind (·[e.2]?)⟩

/-- What the power declaration of a device has to meet by itself. -/
structure PowerDecl.Fits (w : PowerDecl) : Prop where
  phases : ∀ phases, w.phases = some phases → phases.length = w.rails.length
  positions : ∀ position rail, w.rails[position]? = some rail → rail ≠ "" → position < 256
  /-- No rail is named twice. -/
  rails : (w.rails.filter (· ≠ "")).Nodup

namespace Topology

variable {t : Topology} {row : Nat} {kind : String} {w : PowerDecl}

/-- Whether a claim excludes one by the device in `row`. -/
def isExcluded (t : Topology) (row : Nat) (kind : String) (multiphase : Bool) (claim : RailClaim) : Bool :=
  claim.device == row || (t.devices[claim.device]?).any fun other =>
    other.kind == kind && !(multiphase && other.power.any (·.multiphase))

theorem excludes_eq_ok {multiphase : Bool} {claim : RailClaim}
    (h : claim.device = row ∨ claim.device < t.devices.length) :
    t.excludes row kind multiphase claim = .ok (t.isExcluded row kind multiphase claim) := by
  unfold excludes isExcluded
  by_cases hrow : claim.device = row
  · rw [if_pos hrow, beq_iff_eq.mpr hrow]
    rfl
  · have hlt := h.resolve_left hrow
    rw [if_neg hrow, beq_eq_false_iff_ne.mpr hrow, device, List.getElem?_eq_getElem hlt]
    rfl

/-- The claims to a rail are by earlier devices. -/
def ClaimsBefore (rails : OrderedMap String (List RailClaim)) (row : Nat) : Prop :=
  ∀ rail, rail ≠ "" → ∀ claim ∈ (rails.get? rail).getD [], claim.device < row

/-- The walk over the rails of a device. -/
theorem tracks_claimRail (t : Topology) (kind : String) (w : PowerDecl) {base : OrderedMap String (List RailClaim)}
    (hbase : ClaimsBefore base t.devices.length) :
    Tracks (t.claimRail t.devices.length kind w)
      (fun before rails => ∀ rail, rail ≠ "" →
        (rails.get? rail).getD [] = (base.get? rail).getD [] ++ w.claims t.devices.length before rail)
      (fun before entry => entry.1 ≠ "" → entry.2 < 256 ∧ (∀ b ∈ before, b.1 ≠ entry.1) ∧
        ∀ claim ∈ (base.get? entry.1).getD [], t.isExcluded t.devices.length kind w.multiphase claim = false) := by
  refine Tracks.of_iff (fun rails entry => if entry.1 = "" then rails else rails.upsert entry.1 fun claims =>
    claims.getD [] ++ [⟨t.devices.length, entry.2, w.phases.bind (·[entry.2]?)⟩]) ?_ ?_
  · rintro before rails ⟨rail, index⟩ u hknows
    by_cases hempty : rail = ""
    · subst hempty
      rw [show t.claimRail t.devices.length kind w rails ("", index) = .ok rails from rfl, Except.ok.injEq, if_pos rfl,
        eq_comm]
      exact ⟨fun h => ⟨fun hno => absurd rfl hno, h⟩, And.right⟩
    · have hclaims := hknows rail hempty
      have hexcludes : ∀ claim ∈ (rails.get? rail).getD [], t.excludes t.devices.length kind w.multiphase claim =
          .ok (t.isExcluded t.devices.length kind w.multiphase claim) := by
        intro claim hclaim
        rw [hclaims] at hclaim
        refine excludes_eq_ok ?_
        rcases List.mem_append.mp hclaim with hmem | hmem
        · exact Or.inr (hbase rail hempty claim hmem)
        · obtain ⟨e, -, rfl⟩ := List.mem_map.mp hmem
          exact Or.inl rfl
      -- the device's own claims exclude the rail whatever their kind, those of others by theirs
      have hfree : (!(((rails.get? rail).getD []).any (t.isExcluded t.devices.length kind w.multiphase))) = true ↔
          (∀ b ∈ before, b.1 ≠ rail) ∧
            ∀ claim ∈ (base.get? rail).getD [], t.isExcluded t.devices.length kind w.multiphase claim = false := by
        rw [hclaims, List.any_append, Bool.not_or, Bool.and_eq_true, and_comm]
        refine and_congr ?_ (by simp)
        simp only [PowerDecl.claims, List.any_map, List.any_filter, isExcluded, Function.comp_def, BEq.rfl,
          Bool.true_or, Bool.and_true, Bool.not_eq_true', List.any_eq_false, beq_iff_eq]
      have hisEmpty : rail.isEmpty = false := by
        rw [← Bool.not_eq_true, String.isEmpty_iff]
        exact hempty
      simp only [claimRail, hisEmpty, Bool.false_eq_true, if_false, bind_eq_ok_iff, ensure_eq_ok_iff,
        decide_eq_true_eq, exists_const, anyM_eq_ok hexcludes, Except.ok.injEq, exists_eq_left', hfree, ne_eq, hempty,
        not_false_eq_true, forall_const, and_assoc]
      rw [eq_comm (b := u)]
  · rintro before rails ⟨rail, index⟩ hknows - other hother
    have hsplit : w.claims t.devices.length (before ++ [(rail, index)]) other =
        w.claims t.devices.length before other ++ w.claims t.devices.length [(rail, index)] other := by
      simp only [PowerDecl.claims, List.filter_append, List.map_append]
    rw [hsplit, ← List.append_assoc, ← hknows other hother]
    by_cases hsame : other = rail
    · subst hsame
      rw [if_neg hother, OrderedMap.get?_upsert, if_pos rfl]
      simp [PowerDecl.claims]
    · have hnone : w.claims t.devices.length [(rail, index)] other = [] := by
        simp [PowerDecl.claims, Ne.symm hsame]
      rw [hnone, List.append_nil]
      split
      · rfl
      · rw [OrderedMap.get?_upsert, if_neg hsame]

/-- What the walk over the rails of a device checks, as conditions on its power declaration. -/
theorem eachAfter_railEntries {p : String → Prop} : EachAfter (fun before (entry : String × Nat) =>
    entry.1 ≠ "" → entry.2 < 256 ∧ (∀ b ∈ before, b.1 ≠ entry.1) ∧ p entry.1) [] w.rails.zipIdx ↔
      (∀ position rail, w.rails[position]? = some rail → rail ≠ "" → position < 256) ∧
        (w.rails.filter (· ≠ "")).Nodup ∧ ∀ rail ∈ w.rails, rail ≠ "" → p rail := by
  have hparts : ∀ (before : List (String × Nat)) (entry : String × Nat),
      (entry.1 ≠ "" → entry.2 < 256 ∧ (∀ b ∈ before, b.1 ≠ entry.1) ∧ p entry.1) ↔
        (entry.1 ≠ "" → entry.2 < 256) ∧ (∀ b ∈ before, entry.1 ≠ "" → b.1 ≠ entry.1) ∧
          (entry.1 ≠ "" → p entry.1) := fun before entry =>
    ⟨fun h => ⟨fun hne => (h hne).1, fun b hb hne => (h hne).2.1 b hb, fun hne => (h hne).2.2⟩,
      fun ⟨h1, h2, h3⟩ hne => ⟨h1 hne, fun b hb => h2 b hb hne, h3 hne⟩⟩
  rw [eachAfter_congr hparts, eachAfter_and, eachAfter_and, eachAfter_const, eachAfter_const, eachAfter_pairwise]
  have hfst : w.rails.zipIdx.map Prod.fst = w.rails := List.zipIdx_map_fst 0 w.rails
  refine and_congr ?_ (and_congr ?_ ?_)
  · simp only [Prod.forall, List.mem_zipIdx_iff_getElem?]
    exact forall_comm
  · rw [← List.pairwise_map (R := fun x y : String => y ≠ "" → x ≠ y), hfst, List.Nodup, List.pairwise_filter]
    refine List.Pairwise.iff fun x y => ?_
    simp only [decide_eq_true_eq]
    exact ⟨fun h _ hy => h hy, fun h hy => by
      by_cases hx : x = ""
      · exact hx ▸ hy.symm
      · exact h hx hy⟩
  · rw [← List.forall_mem_map (f := Prod.fst) (P := fun rail : String => rail ≠ "" → p rail), hfst]

/-- The phases of a device are checked first, then its rails one by one. -/
theorem claimRails_eq_ok_iff {d : DeviceDecl} {rails : OrderedMap String (List RailClaim)} :
    t.claimRails row d w = .ok rails ↔ (∀ phases, w.phases = some phases → phases.length = w.rails.length) ∧
      w.rails.zipIdx.foldlM (t.claimRail row d.device w) t.rails = .ok rails := by
  obtain ⟨names, phases, pmbus, multiphase⟩ := w
  cases phases with
  | none => exact ⟨fun h => ⟨nofun, h⟩, And.right⟩
  | some phases => simp [claimRails, bind_eq_ok_iff, ensure_eq_ok_iff]

/-- Before the first of its rails is claimed, a device has no share in any. -/
theorem getD_append_claims_nil (t : Topology) (w : PowerDecl) (rail : String) (_ : rail ≠ "") :
    (t.rails.get? rail).getD [] = (t.rails.get? rail).getD [] ++ w.claims t.devices.length [] rail :=
  (List.append_nil _).symm

/-- A device gets its shares in rails exactly when its declaration fits and no earlier claim excludes it. -/
theorem exists_claimRails_iff (hbase : ClaimsBefore t.rails t.devices.length) (d : DeviceDecl) :
    (∃ rails, t.claimRails t.devices.length d w = .ok rails) ↔ w.Fits ∧ ∀ rail ∈ w.rails, rail ≠ "" →
      ∀ claim ∈ (t.rails.get? rail).getD [], t.isExcluded t.devices.length d.device w.multiphase claim = false := by
  have hwalk := tracks_claimRail t d.device w hbase
  simp only [claimRails_eq_ok_iff, exists_and_left]
  rw [hwalk.exists_foldlM_iff (getD_append_claims_nil t w), eachAfter_railEntries (p := fun rail =>
    ∀ claim ∈ (t.rails.get? rail).getD [], t.isExcluded t.devices.length d.device w.multiphase claim = false)]
  exact ⟨fun ⟨h1, h2, h3, h4⟩ => ⟨⟨h1, h2, h3⟩, h4⟩, fun ⟨h, h4⟩ => ⟨h.phases, h.positions, h.rails, h4⟩⟩

/-- The claims to a rail after a device got its shares. -/
theorem get?_claimRails (hbase : ClaimsBefore t.rails t.devices.length) {d : DeviceDecl}
    {rails : OrderedMap String (List RailClaim)} (h : t.claimRails t.devices.length d w = .ok rails) {rail : String}
    (hrail : rail ≠ "") : (rails.get? rail).getD [] =
      (t.rails.get? rail).getD [] ++ w.claims t.devices.length w.rails.zipIdx rail := by
  have hwalk := tracks_claimRail t d.device w hbase
  exact hwalk.keeps_foldlM (getD_append_claims_nil t w) (claimRails_eq_ok_iff.mp h).2 rail hrail

end Topology

end I2cTopology
