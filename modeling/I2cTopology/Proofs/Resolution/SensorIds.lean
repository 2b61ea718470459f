import I2cTopology.Proofs.Resolution.Validity
import Mathlib.Algebra.BigOperators.Group.List.Basic
import Mathlib.Data.List.Forall2

/-!
# Sensor ids

Ids are given out in the order of devices and, on each device, in the canonical order of kinds, every run from where
the one before it ended. So the table of a resolved document numbers all its sensors (`SensorTable.Numbers`,
`Document.sensors_numbered`): the ids over all runs are the numbers below the total, each used once, and those of an
earlier device are less than those of a later one.

Taking ids for one kind keeps what is known of the runs of the device at hand (`SensorRuns.Took`), and adding a device
keeps what is known of all bindings (`SensorTable.Binds`).
-/

namespace I2cTopology

/-! ## Runs one after the other -/

/-- The first of some runs begins at `start`, and each other one where the run before it ended. -/
def SensorRange.Consecutive : Nat → List SensorRange → Prop
  | _, [] => True
  | start, r :: rs => r.first = start ∧ Consecutive (start + r.count) rs

/-- The number of ids in some runs. -/
def SensorRange.sum (rs : List SensorRange) : Nat := (rs.map (·.count)).sum

namespace SensorRange

theorem sum_append (rs ss : List SensorRange) : sum (rs ++ ss) = sum rs + sum ss := by
  simp [sum]

theorem consecutive_append {start : Nat} {rs ss : List SensorRange} :
    Consecutive start (rs ++ ss) ↔ Consecutive start rs ∧ Consecutive (start + sum rs) ss := by
  induction rs generalizing start with
  | nil => simp [Consecutive, sum]
  | cons r rs ih =>
    have hsum : start + sum (r :: rs) = start + r.count + sum rs := by
      simp [sum, Nat.add_assoc]
    rw [List.cons_append, Consecutive, Consecutive, ih, hsum, and_assoc]

/-- The ids of consecutive runs are consecutive numbers. -/
theorem Consecutive.flatMap_ids {start : Nat} {rs : List SensorRange} (h : Consecutive start rs) :
    rs.flatMap (·.ids) = List.range' start (sum rs) := by
  induction rs generalizing start with
  | nil => rfl
  | cons r rs ih =>
    obtain ⟨rfl, hrest⟩ := h
    rw [List.flatMap_cons, ih hrest, ids, List.range'_append_1]
    rfl

end SensorRange

/-! ## What a device declares -/

/-- The kinds among some that a device has sensors of, with the number of them. -/
def SensorDecl.counts (s : SensorDecl) (kinds : List SensorKind) : List (SensorKind × Nat) :=
  (kinds.filter fun kind => 0 < (s.count kind).toNat).map fun kind => (kind, (s.count kind).toNat)

theorem SensorDecl.counts_append (s : SensorDecl) (kinds others : List SensorKind) :
    s.counts (kinds ++ others) = s.counts kinds ++ s.counts others := by
  simp [counts]

/-- What is declared over all devices and kinds can be summed either way. -/
theorem sum_map_count_eq_sum_total (ds : List DeviceDecl) :
    (SensorKind.all.map fun kind => (ds.map fun d => (d.sensors.count kind).toNat).sum).sum =
      (ds.map (·.sensors.total)).sum := by
  induction ds with
  | nil => rfl
  | cons d ds ih =>
    simp only [List.map_cons, List.sum_cons]
    rw [List.sum_map_add, ih]
    rfl

/-! ## The runs of one device -/

/-- What the runs of a device and the table are after ids have been taken from `table` for some kinds. -/
structure SensorRuns.Took (s : SensorRuns) (sensors : SensorDecl) (table : SensorTable) (kinds : List SensorKind) :
    Prop where
  ranges : s.ranges.map (fun r => (r.kind, r.count)) = sensors.counts kinds
  consecutive : SensorRange.Consecutive table.total s.ranges
  total_eq : s.table.total = table.total + SensorRange.sum s.ranges
  bindings_eq : s.table.bindings = table.bindings
  keys_eq : SensorKind.all ⊆ table.perKind.keys → s.table.perKind.keys = table.perKind.keys
  perKind : ∀ kind n, table.perKind.get? kind = some n →
    s.table.perKind.get? kind = some (n + kinds.count kind * (sensors.count kind).toNat)

/-- Taking ids for one more kind. -/
theorem SensorRuns.Took.take {s t : SensorRuns} {sensors : SensorDecl} {table : SensorTable} {kinds : List SensorKind}
    {kind : SensorKind} (h : s.Took sensors table kinds) (ht : SensorRuns.take sensors s kind = .ok t) :
    t.Took sensors table (kinds ++ [kind]) := by
  have hcount : ∀ other, (kinds ++ [kind]).count other * (sensors.count other).toNat =
      kinds.count other * (sensors.count other).toNat + if other = kind then (sensors.count kind).toNat else 0 :=
    fun other => by
      rw [List.count_append, Nat.add_mul]
      by_cases hsame : other = kind
      · simp [hsame]
      · simp [hsame, Ne.symm hsame]
  simp only [SensorRuns.take] at ht
  split at ht
  · rename_i hzero
    obtain rfl := Except.ok.inj ht
    refine ⟨?_, h.consecutive, h.total_eq, h.bindings_eq, h.keys_eq, fun other n hn => ?_⟩
    · rw [h.ranges, SensorDecl.counts_append, SensorDecl.counts]
      simp [SensorDecl.counts, hzero]
    · rw [h.perKind other n hn, hcount]
      simp [hzero]
  · rename_i hpositive
    simp at ht
    obtain ⟨-, rfl⟩ := ht
    refine ⟨?_, ?_, ?_, h.bindings_eq, fun hall => ?_, fun other n hn => ?_⟩
    · rw [List.map_append, h.ranges, SensorDecl.counts_append]
      simp [SensorDecl.counts, Nat.pos_of_ne_zero hpositive]
    · rw [SensorRange.consecutive_append]
      exact ⟨h.consecutive, h.total_eq, trivial⟩
    · rw [SensorRange.sum_append, ← Nat.add_assoc, ← h.total_eq]
      rfl
    · rw [OrderedMap.keys_upsert, h.keys_eq hall, if_pos (hall kind.mem_all)]
    · rw [OrderedMap.get?_upsert, hcount]
      split
      · rename_i hsame
        subst hsame
        rw [h.perKind other n hn, Option.getD_some, Nat.add_assoc]
      · exact h.perKind other n hn

/-- Adding a device binds its runs and takes them from the table, kind after kind. -/
theorem SensorTable.exists_took_of_add {table u : SensorTable} {row : Nat} {sensors : SensorDecl}
    (h : table.add row sensors = .ok u) :
    ∃ runs : SensorRuns, runs.Took sensors table SensorKind.all ∧
      u = { runs.table with bindings := runs.table.bindings ++ [⟨row, runs.ranges⟩] } := by
  simp [add] at h
  obtain ⟨runs, hruns, rfl⟩ := h
  have hstart : SensorRuns.Took ⟨[], table⟩ sensors table [] :=
    ⟨rfl, trivial, rfl, rfl, fun _ => rfl, fun kind n hn => by rw [hn, List.count_nil, Nat.zero_mul]; rfl⟩
  exact ⟨runs, foldlM_keeps (fun before s => s.Took sensors table before) SensorRuns.Took.take [] hstart hruns, rfl⟩

/-! ## The table of a board -/

namespace SensorTable

/-- The runs of all devices, in order. -/
def runs (t : SensorTable) : List SensorRange := t.bindings.flatMap (·.ranges)

/-- What the table is after ids have been given to some devices. -/
structure Binds (t : SensorTable) (ds : List DeviceDecl) : Prop where
  devices_eq : t.bindings.map (·.device) = List.range ds.length
  ranges : List.Forall₂ (fun d b => b.ranges.map (fun r => (r.kind, r.count)) = d.sensors.counts SensorKind.all) ds
    t.bindings
  consecutive : SensorRange.Consecutive 0 t.runs
  total_eq : t.total = SensorRange.sum t.runs
  keys_eq : t.perKind.keys = SensorKind.all
  perKind : ∀ kind, t.perKind.get? kind = some (ds.map fun d => (d.sensors.count kind).toNat).sum

theorem Binds.add {t u : SensorTable} {ds : List DeviceDecl} (h : t.Binds ds) {d : DeviceDecl}
    (hu : t.add ds.length d.sensors = .ok u) : u.Binds (ds ++ [d]) := by
  obtain ⟨runs, hruns, rfl⟩ := exists_took_of_add hu
  have hall : SensorTable.runs { runs.table with bindings := runs.table.bindings ++ [⟨ds.length, runs.ranges⟩] } =
      t.runs ++ runs.ranges := by
    rw [SensorTable.runs, List.flatMap_append, List.flatMap_singleton, hruns.bindings_eq]
    rfl
  refine ⟨?_, ?_, ?_, ?_, ?_, fun kind => ?_⟩
  · rw [List.map_append, hruns.bindings_eq, h.devices_eq, List.length_append, List.length_singleton, List.range_succ]
    rfl
  · rw [hruns.bindings_eq]
    exact List.rel_append h.ranges (.cons hruns.ranges .nil)
  · rw [hall, SensorRange.consecutive_append, Nat.zero_add, ← h.total_eq]
    exact ⟨h.consecutive, hruns.consecutive⟩
  · rw [hall, SensorRange.sum_append, ← h.total_eq]
    exact hruns.total_eq
  · rw [← h.keys_eq]
    exact hruns.keys_eq (by rw [h.keys_eq]; exact List.Subset.refl _)
  · have hone : SensorKind.all.count kind = 1 := List.count_eq_one_of_mem SensorKind.nodup_all kind.mem_all
    rw [hruns.perKind kind _ (h.perKind kind), hone, List.map_append, List.sum_append]
    simp

/-- The table numbers the sensors of some devices. -/
structure Numbers (t : SensorTable) (ds : List DeviceDecl) : Prop where
  /-- There is one binding per device, in order. -/
  devices_eq : t.bindings.map (·.device) = List.range ds.length
  /-- A binding has one run for each kind that the device has sensors of, in canonical order. -/
  ranges : List.Forall₂ (fun d b => b.ranges.map (fun r => (r.kind, r.count)) = d.sensors.counts SensorKind.all) ds
    t.bindings
  consecutive : SensorRange.Consecutive 0 t.runs
  ids_eq : t.runs.flatMap (·.ids) = List.range t.total
  earlier_lt : t.bindings.Pairwise fun a b => ∀ i ∈ a.ranges.flatMap (·.ids), ∀ j ∈ b.ranges.flatMap (·.ids), i < j
  total_eq : t.total = (ds.map (·.sensors.total)).sum
  perKind_eq : t.perKind.entries = SensorKind.all.map fun kind =>
    (kind, (ds.map fun d => (d.sensors.count kind).toNat).sum)
  sum_perKind : (t.perKind.entries.map Prod.snd).sum = t.total

theorem Binds.numbers {t : SensorTable} {ds : List DeviceDecl} (h : t.Binds ds)
    (htotal : t.total = (ds.map (·.sensors.total)).sum) : t.Numbers ds := by
  have hids : t.runs.flatMap (·.ids) = List.range t.total := by
    rw [h.consecutive.flatMap_ids, ← h.total_eq, List.range_eq_range']
  have hentries : t.perKind.entries = SensorKind.all.map fun kind =>
      (kind, (ds.map fun d => (d.sensors.count kind).toNat).sum) := by
    rw [← h.keys_eq]
    exact OrderedMap.entries_eq_map_keys fun kind _ => h.perKind kind
  refine ⟨h.devices_eq, h.ranges, h.consecutive, hids, ?_, htotal, hentries, ?_⟩
  · have hsorted : (t.bindings.flatMap fun b => b.ranges.flatMap (·.ids)).Pairwise (· < ·) := by
      rw [← List.flatMap_assoc]
      exact (show _ = _ from hids) ▸ List.pairwise_lt_range
    exact (List.pairwise_flatMap.mp hsorted).2
  · rw [hentries, List.map_map, htotal]
    exact sum_map_count_eq_sum_total ds

end SensorTable

/-! ## Whole documents -/

theorem Topology.binds_ofControllers (cs : List ControllerDecl) : (ofControllers cs).sensors.Binds [] := by
  refine ⟨rfl, .nil, trivial, rfl, rfl, fun kind => ?_⟩
  cases kind <;> rfl

/-- **Sensor ids are dense and in order.** The table of a resolved document numbers the sensors of its devices. -/
theorem Document.sensors_numbered {d : Document} {t : Topology} (h : d.resolve = .ok t) :
    t.sensors.Numbers d.devices := by
  have hcovers := covers_of_resolve h
  obtain ⟨s, hs, ht⟩ := bind_eq_ok_iff.mp h
  obtain ⟨hf, rfl⟩ := foldlM_addController_eq_ok_iff.mp hs
  have hstart := Topology.binds_ofControllers d.controllers
  have hwalk := foldlM_keeps (fun before (t : Topology) => t.Covers d.controllers before ∧ t.sensors.Binds before)
    (fun {before s e u} hbefore hu => by
      obtain ⟨b, group, sensors, rails, -, -, hsensors, -, rfl⟩ := Topology.addDevice_eq_ok_iff.mp hu
      rw [hbefore.1.length_devices] at hsensors
      exact ⟨hbefore.1.addDevice hf hu, hbefore.2.add hsensors⟩)
    [] ⟨Topology.covers_ofControllers d.controllers, hstart⟩ ht
  exact hwalk.2.numbers hcovers.sensors

namespace LastSensorId

/-- A device without sensors sits between two others, the second of which takes all ids that are left. -/
def document : Document where
  controllers := [{ controller := 0, ports := .ofList [("A", { name := some "main" })] }]
  devices := [
    { device := "tmp117", bus := some "main", address := 0x48, sensors := { temperature := 2, inputVoltage := 1 } },
    { device := "at24csw080", bus := some "main", address := 0x50 },
    { device := "adm1272", bus := some "main", address := 0x10, sensors := { power := 4294967290, speed := 2 } }]

def board : Topology := document.resolve.toOption.getD {}

/-- The runs of the last device go on where those of the first one ended, up to the last id that there is. -/
theorem sensors_numbered_up_to_last :
    document.resolve = .ok board ∧ board.sensors.runs = [⟨.temperature, 0, 2⟩, ⟨.inputVoltage, 2, 1⟩,
      ⟨.power, 3, 4294967290⟩, ⟨.speed, 4294967293, 2⟩] ∧ board.sensors.Numbers document.devices :=
  ⟨rfl, rfl, Document.sensors_numbered rfl⟩

end LastSensorId

end I2cTopology
