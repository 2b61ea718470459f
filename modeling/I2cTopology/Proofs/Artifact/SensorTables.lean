import I2cTopology.Proofs.Artifact.Accessors

/-!
# Sensor tables lose, repeat and misplace no id

An artifact regroups the sensor ids of a board: from runs that follow each other device after device to tables that
have one column for each kind of sensors and one record for each device. `Document.TabulatedBy` says that the same ids
are in both, under the same kind of sensors and for the same device, and that the tables list the devices with sensors
and no others; `SensorSection.WrittenIn` says that the text of the artifact has the numbers of sensors and, for each
column, its ids one record after the other. Both hold of a full artifact (`Document.tabulated_by_sensors`).
-/

namespace I2cTopology

/-! ## Sensor ids and what they are for -/

/-- A sensor id with the kind of the sensor and the row of its device. -/
structure SensorEntry where
  kind : SensorKind
  device : Nat
  id : Nat
deriving DecidableEq

/-- The ids of a run of a device. -/
def SensorRange.entries (device : Nat) (r : SensorRange) : List SensorEntry := r.ids.map fun id => ⟨r.kind, device, id⟩

/-- The ids of a device. -/
def SensorBinding.entries (b : SensorBinding) : List SensorEntry := b.ranges.flatMap (SensorRange.entries b.device)

/-- The ids in the columns of a record. -/
def SensorInstance.entries (columns : List SensorColumn) (s : SensorInstance) : List SensorEntry :=
  (columns.zip s.ids).flatMap fun c => c.2.map fun id => ⟨c.1.kind, s.device, id⟩

namespace SensorModule

/-- The ids in the tables of a driver kind. -/
def entries (m : SensorModule) : List SensorEntry := m.instances.flatMap (·.entries m.columns)

/-- The ids in the columns of a kind, one record after the other. -/
def idsOfKind (m : SensorModule) (kind : SensorKind) : List Nat :=
  m.instances.flatMap fun s => ((m.columns.zip s.ids).filter fun c => c.1.kind == kind).flatMap Prod.snd

end SensorModule

/-- The ids in all tables. -/
def SensorSection.entries (s : SensorSection) : List SensorEntry := s.groups.flatMap (·.entries)

/-! ## What the tables have to be -/

/-- A device of a kind with sensors is declared in a row. -/
def Document.Senses (d : Document) (kind : String) (row : Nat) : Prop :=
  ∃ e, d.devices[row]? = some e ∧ e.device = kind ∧ 0 < e.sensors.total

/-- A module has the tables of a driver kind: columns for kinds of sensors that the devices have, and a record for each
device with sensors, under its names. -/
structure SensorModule.IsFor (d : Document) (kind : String) (m : SensorModule) : Prop where
  name_eq : m.name = Identifier.snake kind
  columns : ∃ kinds : List SensorKind, kinds.Sublist SensorKind.all ∧
    m.columns = kinds.map fun k => ⟨k, Identifier.snake k.name, Identifier.upper k.name⟩
  ids_ne_nil : ∀ column ∈ m.columns, m.idsOfKind column.kind ≠ []
  devices : Enumerates (m.instances.map (·.device)) (d.Senses kind)
  length_ids : ∀ s ∈ m.instances, s.ids.length = m.columns.length
  constants : ∀ s ∈ m.instances, ∃ e, d.devices[s.device]? = some e ∧ s.constants = e.names.map Identifier.upper
  distinct : (m.instances.flatMap (·.constants)).Nodup

/-- The tables hold the sensor ids of the devices of a document. -/
structure Document.TabulatedBy (d : Document) (table : SensorTable) (s : SensorSection) : Prop where
  /-- No id is lost, repeated, or put to another device or another kind. -/
  entries : s.entries.Perm (table.bindings.flatMap (·.entries))
  total_eq : s.total = table.total
  ids : (s.entries.map (·.id)).Perm (List.range s.total)
  perKind_eq : s.perKind.map (fun n => (n.kind, n.constant)) =
    SensorKind.all.map fun k => (k, s!"NUM_{Identifier.upper k.name}_SENSORS")
  counts : ∀ n ∈ s.perKind, s.entries.countP (·.kind == n.kind) = n.count
  sum_counts : (s.perKind.map (·.count)).sum = s.total
  modules : ∃ own : List String, own.Sublist d.kinds ∧ (∀ kind, kind ∈ own ↔ ∃ row, d.Senses kind row) ∧
    List.Forall₂ (SensorModule.IsFor d) own s.groups
  distinct : (s.groups.map (·.name)).Nodup
  /-- Each device with sensors has one record. -/
  devices : (s.groups.flatMap fun m => m.instances.map (·.device)).Perm
    (d.devices.findIdxs fun e => 0 < e.sensors.total)

/-- The lines that list the ids in each column of a module. -/
def SensorModule.idTexts (m : SensorModule) (corePath : String) : List String :=
  "pub mod ids \x7b" :: s!"use {corePath}::SensorId;" :: "" :: (m.columns.map fun column =>
    let ids := m.idsOfKind column.kind
    s!"pub const {column.constant}: [SensorId; {ids.length}] = [{Artifact.idList ids}];") ++ ["\x7d"]

/-- A text has the numbers of sensors and, within the lines of each module, the ids in its columns. -/
structure SensorSection.WrittenIn (s : SensorSection) (a : Artifact) (texts : List String) : Prop where
  counts : (s!"pub const NUM_SENSORS: usize = {s.total};" ::
    s.perKind.map fun n => s!"pub const {n.constant}: usize = {n.count};") <:+: texts
  ids : ∀ m ∈ s.groups, ∃ lines, a.sensorModuleLines m = .ok lines ∧ lines.map (·.text) <:+: texts ∧
    m.idTexts a.corePath <:+: lines.map (·.text)

/-! ## The ids of a device -/

namespace SensorSection

variable {t : Topology}

/-- The column of a kind among those of distinct kinds. -/
theorem filter_zip_columns {kinds : List SensorKind} (hn : kinds.Nodup) {k : SensorKind} (hk : k ∈ kinds)
    (f : SensorKind → List Nat) :
    (((kinds.map columnOf).zip (kinds.map f)).filter fun c => c.1.kind == k).flatMap Prod.snd = f k := by
  have hone : (kinds.filter fun j => j == k) = [k] := by
    rw [List.filter_beq, List.count_eq_one_of_mem hn hk]
    rfl
  rw [List.zip_map', List.filter_map, List.flatMap_map]
  show (kinds.filter fun j => j == k).flatMap f = f k
  rw [hone, List.flatMap_singleton]

/-- A record has the ids of its device, if it has a column for each kind that the device has sensors of. -/
theorem perm_entries_instanceOf {kinds : List SensorKind} (hn : kinds.Nodup) {device : Nat}
    (h : ∀ r ∈ t.sensors.ranges device, r.kind ∈ kinds) :
    ((instanceOf t kinds device).entries (kinds.map columnOf)).Perm
      (SensorBinding.entries ⟨device, t.sensors.ranges device⟩) := by
  have hcolumns : (instanceOf t kinds device).entries (kinds.map columnOf) =
      (kinds.flatMap fun k => (t.sensors.ranges device).filter fun r => r.kind == k).flatMap
        (SensorRange.entries device) := by
    rw [SensorInstance.entries, instanceOf, List.zip_map', List.flatMap_map, List.flatMap_assoc]
    refine List.flatMap_congr fun k _ => ?_
    rw [idsOf, SensorBinding.ids, List.map_flatMap]
    refine List.flatMap_congr fun r hr => ?_
    obtain rfl : r.kind = k := beq_iff_eq.mp (List.mem_filter.mp hr).2
    rfl
  rw [hcolumns, SensorBinding.entries]
  exact (KeyedList.perm_flatMap_filter hn h).flatMap_right _

theorem mem_kindsOf {devices : List Nat} {k : SensorKind} :
    k ∈ kindsOf t.sensors devices ↔ ∃ device ∈ devices, ∃ r ∈ t.sensors.ranges device, r.kind = k := by
  simp [kindsOf, SensorKind.mem_all]

theorem sublist_kindsOf (devices : List Nat) : (kindsOf t.sensors devices).Sublist SensorKind.all :=
  List.filter_sublist

theorem nodup_kindsOf (devices : List Nat) : (kindsOf t.sensors devices).Nodup :=
  SensorKind.nodup_all.sublist (sublist_kindsOf devices)

/-! ## The ids of a module -/

theorem idsOfKind_moduleOf (kind : String) (g : DeviceGroup) {k : SensorKind}
    (hk : k ∈ kindsOf t.sensors (sensing t g)) :
    (moduleOf t kind g).idsOfKind k = (sensing t g).flatMap fun device => idsOf t device k := by
  rw [SensorModule.idsOfKind, moduleOf, List.flatMap_map]
  exact List.flatMap_congr fun device _ => filter_zip_columns (nodup_kindsOf _) hk (idsOf t device)

/-- The ids that are taken from each record by position are those in the columns of one kind. -/
theorem columnIds_moduleOf (kind : String) (g : DeviceGroup) {position : Nat} {column : SensorColumn}
    (h : (moduleOf t kind g).columns[position]? = some column) :
    Artifact.columnIds (moduleOf t kind g) position = (moduleOf t kind g).idsOfKind column.kind := by
  rw [moduleOf, List.getElem?_map] at h
  obtain ⟨k, hk, rfl⟩ := Option.map_eq_some_iff.mp h
  rw [show (columnOf k).kind = k from rfl, idsOfKind_moduleOf kind g (List.mem_of_getElem? hk), Artifact.columnIds,
    moduleOf, List.flatMap_map]
  refine List.flatMap_congr fun device _ => ?_
  rw [instanceOf, List.getElem?_map, hk]
  rfl

theorem perm_entries_moduleOf (kind : String) (g : DeviceGroup) :
    (moduleOf t kind g).entries.Perm
      ((sensing t g).flatMap fun device => SensorBinding.entries ⟨device, t.sensors.ranges device⟩) := by
  rw [SensorModule.entries, moduleOf, List.flatMap_map]
  refine List.Perm.flatMap_left _ fun device hdevice => perm_entries_instanceOf (nodup_kindsOf _) fun r hr => ?_
  exact mem_kindsOf.mpr ⟨device, hdevice, r, hr, rfl⟩

/-! ## The ids of a board -/

/-- The tables have the ids of each device with sensors, group after group. -/
theorem perm_entries_listed (t : Topology) : (listed t).entries.Perm
    ((t.groups.entries.flatMap fun e => sensing t e.2).flatMap fun device =>
      SensorBinding.entries ⟨device, t.sensors.ranges device⟩) := by
  rw [entries, listed, modulesOf, List.flatMap_map, List.flatMap_assoc, ← KeyedList.flatMap_filter_of_nil
    (p := fun e => !(sensing t e.2).isEmpty) (l := t.groups.entries) fun e _ he => ?_]
  · exact List.Perm.flatMap_left _ fun e _ => perm_entries_moduleOf e.1 e.2
  · rw [Bool.not_eq_false', List.isEmpty_iff] at he
    rw [he, List.flatMap_nil]

/-- The groups have each device with sensors once. -/
theorem perm_flatMap_sensing
    (hpartition : (t.groups.entries.flatMap (·.2.devices)).Perm (List.range t.devices.length)) :
    (t.groups.entries.flatMap fun e => sensing t e.2).Perm
      ((List.range t.devices.length).filter fun device => !(t.sensors.ranges device).isEmpty) := by
  have hfilter := hpartition.filter fun device => !(t.sensors.ranges device).isEmpty
  rwa [List.filter_flatMap] at hfilter

end SensorSection

/-! ## Bindings -/

namespace SensorTable

variable {t : SensorTable} {ds : List DeviceDecl}

/-- The bindings are those of the rows, in order. -/
theorem Binds.bindings_eq (h : t.Binds ds) :
    t.bindings = (List.range ds.length).map fun row => ⟨row, t.ranges row⟩ := by
  refine List.ext_getElem? fun row => ?_
  have hdevice := congrArg (·[row]?) h.devices_eq
  simp only [List.getElem?_map] at hdevice ⊢
  cases hb : t.bindings[row]? with
  | none =>
    rw [hb] at hdevice
    rw [← hdevice]
    rfl
  | some b =>
    rw [hb, Option.map_some] at hdevice
    obtain ⟨hlt, hrow⟩ := List.getElem?_eq_some_iff.mp hdevice.symm
    rw [List.getElem_range] at hrow
    subst hrow
    rw [← hdevice, Option.map_some, SensorTable.ranges, hb]

theorem map_id_entries (b : SensorBinding) : b.entries.map (·.id) = b.ranges.flatMap (·.ids) := by
  rw [SensorBinding.entries, List.map_flatMap]
  refine List.flatMap_congr fun r _ => ?_
  rw [SensorRange.entries, List.map_map]
  exact List.map_id _

theorem map_id_flatMap_entries (t : SensorTable) :
    (t.bindings.flatMap (·.entries)).map (·.id) = t.runs.flatMap (·.ids) := by
  rw [List.map_flatMap, runs, List.flatMap_assoc]
  exact List.flatMap_congr fun b _ => map_id_entries b

/-- The ids of a kind among declared numbers of sensors. -/
theorem sum_counts_of_kind (sensors : SensorDecl) (k : SensorKind) (kinds : List SensorKind) :
    ((sensors.counts kinds).map fun p => if p.1 = k then p.2 else 0).sum = kinds.count k * (sensors.count k).toNat := by
  induction kinds with
  | nil => simp [SensorDecl.counts]
  | cons j kinds ih =>
    have hfirst : ((sensors.counts [j]).map fun p => if p.1 = k then p.2 else 0).sum =
        if j = k then (sensors.count k).toNat else 0 := by
      by_cases hj : j = k
      · subst hj
        rcases Nat.eq_zero_or_pos (sensors.count j).toNat with hzero | hpos
        · simp [SensorDecl.counts, hzero]
        · simp [SensorDecl.counts, hpos]
      · simp [SensorDecl.counts, hj, List.filter_cons]
        split <;> simp [hj]
    rw [← List.singleton_append, SensorDecl.counts_append, List.map_append, List.sum_append, ih, hfirst,
      List.count_append, Nat.add_mul]
    by_cases hj : j = k
    · simp [hj]
    · simp [hj]

theorem countP_entries {b : SensorBinding} {e : DeviceDecl}
    (h : b.ranges.map (fun r => (r.kind, r.count)) = e.sensors.counts SensorKind.all) (k : SensorKind) :
    b.entries.countP (·.kind == k) = (e.sensors.count k).toNat := by
  have hrun : ∀ r : SensorRange, (r.entries b.device).countP (·.kind == k) = if r.kind = k then r.count else 0 := by
    intro r
    rw [SensorRange.entries, List.countP_map, SensorRange.ids]
    by_cases hk : r.kind = k
    · simp [hk, Function.comp_def]
    · simp [hk, Function.comp_def]
  have hsum := sum_counts_of_kind e.sensors k SensorKind.all
  rw [← h, List.map_map, List.count_eq_one_of_mem SensorKind.nodup_all k.mem_all, Nat.one_mul] at hsum
  rw [← hsum, SensorBinding.entries, List.countP_flatMap]
  exact congrArg List.sum (List.map_congr_left fun r _ => hrun r)

theorem Binds.countP_entries (h : t.Binds ds) (k : SensorKind) :
    (t.bindings.flatMap (·.entries)).countP (·.kind == k) = (ds.map fun e => (e.sensors.count k).toNat).sum := by
  rw [List.countP_flatMap]
  exact congrArg List.sum (map_eq_map_of_forall₂ h.ranges fun e b hb => (SensorTable.countP_entries hb k).symm).symm

end SensorTable

/-! ## The text -/

namespace Line

variable {texts : List String} {ls ms : List Line}

theorem map_text_inside (ls : List Line) : (inside ls).map (·.text) = ls.map (·.text) := by
  rw [inside, List.map_map]
  refine List.map_congr_left fun l _ => ?_
  rw [Function.comp_apply]
  split <;> rfl

theorem map_text_flush (texts : List String) : (flush texts).map (·.text) = texts := by
  rw [flush, List.map_map]
  exact List.map_id _

theorem map_text_braced (head : String) (ls : List Line) :
    (braced head ls).map (·.text) = (head ++ " \x7b") :: ls.map (·.text) ++ ["\x7d"] := by
  rw [braced, block, List.map_append, List.map_cons, map_text_inside]
  rfl

theorem infix_braced (h : texts <:+: ls.map (·.text)) (head : String) :
    texts <:+: (braced head ls).map (·.text) := by
  rw [map_text_braced]
  exact (List.infix_cons h).trans (List.prefix_append _ _).isInfix

theorem infix_append_left (h : texts <:+: ls.map (·.text)) (ms : List Line) :
    texts <:+: (ls ++ ms).map (·.text) := by
  rw [List.map_append]
  exact h.trans (List.prefix_append _ _).isInfix

theorem infix_append_right (h : texts <:+: ms.map (·.text)) (ls : List Line) :
    texts <:+: (ls ++ ms).map (·.text) := by
  rw [List.map_append]
  exact h.trans (List.suffix_append _ _).isInfix

end Line

/-- The lines of each item are within those of a list of items. -/
theorem exists_infix_of_linesOf {α : Type} {f : α → Except EmitError (List Line)} {items : List α} {lines : List Line}
    (h : linesOf f items = .ok lines) {item : α} (hitem : item ∈ items) :
    ∃ ls, f item = .ok ls ∧ ls.map (·.text) <:+: lines.map (·.text) := by
  unfold linesOf at h
  cases hall : items.mapM f with
  | error e =>
    rw [hall] at h
    cases h
  | ok parts =>
    rw [hall] at h
    obtain rfl := Except.ok.inj h
    obtain ⟨ls, hls, hf⟩ := exists_of_forall₂_left (mapM_eq_ok_iff_forall₂.mp hall) hitem
    exact ⟨ls, hf, (List.infix_of_mem_flatten hls).map _⟩

namespace Artifact

variable {a : Artifact} {lines : List Line}

/-- To write each column of a module with the ids of its kind is to write it with the ids at its position. -/
theorem map_idsOfKind {m : SensorModule} (text : SensorColumn → List Nat → String)
    (hcolumns : ∀ (position : Nat) (column : SensorColumn), m.columns[position]? = some column →
      columnIds m position = m.idsOfKind column.kind) :
    (m.columns.map fun column => text column (m.idsOfKind column.kind)) =
      m.columns.zipIdx.map fun entry => text entry.1 (columnIds m entry.2) :=
  calc m.columns.map (fun column => text column (m.idsOfKind column.kind))
    _ = (m.columns.zipIdx.map Prod.fst).map fun column => text column (m.idsOfKind column.kind) := by
      rw [List.zipIdx_map_fst]
    _ = m.columns.zipIdx.map fun entry => text entry.1 (m.idsOfKind entry.1.kind) := List.map_map
    _ = m.columns.zipIdx.map fun entry => text entry.1 (columnIds m entry.2) :=
      List.map_congr_left fun entry hentry => by
        rw [hcolumns _ _ (List.mem_zipIdx_iff_getElem?.mp hentry)]

/-- The lines of a module have the ids in each of its columns, if those are what is taken by position. -/
theorem idTexts_within {m : SensorModule}
    (hcolumns : ∀ (position : Nat) (column : SensorColumn), m.columns[position]? = some column →
      columnIds m position = m.idsOfKind column.kind)
    (h : a.sensorModuleLines m = .ok lines) : m.idTexts a.corePath <:+: lines.map (·.text) := by
  simp only [sensorModuleLines, bind_eq_ok_iff, Except.ok.injEq] at h
  obtain ⟨records, -, rfl⟩ := h
  refine List.infix_cons (Line.infix_braced (Line.infix_append_left (Line.infix_append_right ?_ _) _) _)
  refine List.infix_cons ?_
  rw [Line.map_text_braced, List.map_cons, List.map_cons, Line.map_text_flush,
    ← map_idsOfKind (fun column ids => s!"pub const {column.constant}: [SensorId; {ids.length}] = [{idList ids}];")
      hcolumns]
  exact List.infix_rfl

theorem counts_within {s : SensorSection} (h : a.sensorLines s = .ok lines) :
    (s!"pub const NUM_SENSORS: usize = {s.total};" ::
      s.perKind.map fun n => s!"pub const {n.constant}: usize = {n.count};") <:+: lines.map (·.text) := by
  simp [sensorLines] at h
  obtain ⟨modules, -, rfl⟩ := h
  refine List.infix_cons (Line.infix_braced (Line.infix_append_left ?_ _) _)
  rw [Line.map_text_flush]
  exact List.infix_rfl

theorem moduleLines_within {s : SensorSection} (h : a.sensorLines s = .ok lines) {m : SensorModule}
    (hm : m ∈ s.groups) : ∃ ls, a.sensorModuleLines m = .ok ls ∧ ls.map (·.text) <:+: lines.map (·.text) := by
  simp [sensorLines] at h
  obtain ⟨modules, hmodules, rfl⟩ := h
  obtain ⟨ls, hls, hlines⟩ := exists_infix_of_linesOf hmodules hm
  exact ⟨ls, hls, List.infix_cons (Line.infix_braced (Line.infix_append_right hlines _) _)⟩

/-- The lines of an artifact have those of its sensor ids. -/
theorem exists_sensorLines (h : a.lines = .ok lines) {s : SensorSection} (hs : a.sensors = some s) :
    ∃ ls, a.sensorLines s = .ok ls ∧ ls.map (·.text) <:+: lines.map (·.text) := by
  simp only [Artifact.lines, bind_eq_ok_iff, Except.ok.injEq, hs] at h
  obtain ⟨bus, -, accessors, -, sensors, hsensors, validation, -, rfl⟩ := h
  refine ⟨sensors, hsensors, ?_⟩
  refine Line.infix_append_right (Line.infix_braced (Line.infix_append_left (Line.infix_append_right ?_ _) _) _) _
  exact List.infix_refl _

theorem writtenIn_of_lines {t : Topology} (h : a.lines = .ok lines)
    (hs : a.sensors = some (SensorSection.listed t)) :
    (SensorSection.listed t).WrittenIn a (lines.map (·.text)) := by
  obtain ⟨ls, hsection, hlines⟩ := exists_sensorLines h hs
  refine ⟨(counts_within hsection).trans hlines, fun m hm => ?_⟩
  obtain ⟨ms, hms, hmodule⟩ := moduleLines_within hsection hm
  obtain ⟨e, -, rfl⟩ := List.mem_map.mp hm
  exact ⟨ms, hms, hmodule.trans hlines, idTexts_within (fun _ _ => SensorSection.columnIds_moduleOf e.1 e.2) hms⟩

end Artifact

/-! ## Whole documents -/

namespace Document

variable {d : Document} {t : Topology} {dispositions : List Disposition} {o : EmitOptions} {a : Artifact}

theorem numbers_of_resolve (h : d.resolve = .ok t) : t.sensors.Numbers d.devices :=
  (binds_of_resolve h).numbers (covers_of_resolve h).sensors

theorem perm_entries_bindings (h : d.resolve = .ok t) :
    (SensorSection.listed t).entries.Perm (t.sensors.bindings.flatMap (·.entries)) := by
  have hsensing := SensorSection.perm_flatMap_sensing (indexed_of_resolve h).partition
  have hbindings := (binds_of_resolve h).bindings_eq
  rw [← (covers_of_resolve h).length_devices] at hbindings
  refine (SensorSection.perm_entries_listed t).trans ((hsensing.flatMap_right _).trans ?_)
  rw [KeyedList.flatMap_filter_of_nil fun row _ hrow => ?_, hbindings, List.flatMap_map]
  rw [Bool.not_eq_false', List.isEmpty_iff] at hrow
  rw [hrow]
  rfl

/-- A device has no run of ids without ids. -/
theorem ids_ne_nil_of_mem_ranges (h : d.resolve = .ok t) {row : Nat} {r : SensorRange}
    (hr : r ∈ t.sensors.ranges row) : r.ids ≠ [] := by
  obtain ⟨b, hb, hmem⟩ : ∃ b ∈ t.sensors.bindings, r ∈ b.ranges := by
    unfold SensorTable.ranges at hr
    split at hr
    · rename_i b hb
      exact ⟨b, List.mem_of_getElem? hb, hr⟩
    · cases hr
  obtain ⟨e, -, hcounts⟩ := exists_of_forall₂_right (binds_of_resolve h).ranges hb
  have hcount : (r.kind, r.count) ∈ e.sensors.counts SensorKind.all :=
    hcounts ▸ List.mem_map_of_mem (f := fun r : SensorRange => (r.kind, r.count)) hmem
  obtain ⟨k, hk, hpair⟩ := List.mem_map.mp hcount
  have hpositive := of_decide_eq_true (List.mem_filter.mp hk).2
  rw [(Prod.mk.inj hpair).2] at hpositive
  rw [SensorRange.ids, ne_eq, List.range'_eq_nil_iff]
  exact Nat.ne_of_gt hpositive

theorem enumerates_sensing (h : d.resolve = .ok t) (kind : String) :
    Enumerates (SensorSection.sensing t (t.group kind)) (d.Senses kind) :=
  ⟨(enumerates_ofKind h kind).ascending.filter _, fun _ => SensorSection.mem_sensing_iff h⟩

theorem namesOf_eq (h : d.resolve = .ok t) {row : Nat} {e : DeviceDecl} (he : d.devices[row]? = some e) :
    SensorSection.namesOf t row = e.names := by
  obtain ⟨b, hb, slot, p, -, -, -, rfl⟩ := (covers_of_resolve h).placed row e he
  rw [SensorSection.namesOf, hb]
  rfl

/-- The constants of the devices with sensors of a kind are different. -/
theorem nodup_constants (h : d.resolve = .ok t) (ha : Artifact.ofTopology t dispositions o = .ok a)
    (hfull : o.standalone = false) (hsensors : .sensors ∈ dispositions) {e : String × DeviceGroup}
    (he : e ∈ t.groups.entries) :
    ((SensorSection.sensing t e.2).flatMap fun row => (SensorSection.namesOf t row).map Identifier.upper).Nodup := by
  have hkind : (SensorSection.kindItems t e).Nodup :=
    (List.nodup_flatMap.mp (SensorSection.nodup_sensorItems h)).1 e he
  have hitems : ((SensorSection.sensing t e.2).flatMap (SensorSection.instanceItems t e.1)).Nodup := by
    unfold SensorSection.kindItems at hkind
    split at hkind
    · rename_i hnone
      rw [List.isEmpty_iff.mp hnone]
      exact List.nodup_nil
    · exact (List.nodup_cons.mp hkind).2
  have hidentifiers := nodup_identifiers h ha hfull hitems (.sensorNames e.1) fun b hb => by
    obtain ⟨row, hrow, hmem⟩ := List.mem_flatMap.mp hb
    refine ⟨namedIn_of_mem_sensorItems h hsensors (List.mem_flatMap.mpr ⟨e, he, ?_⟩),
      SensorSection.home_of_mem_instanceItems hmem⟩
    exact SensorSection.mem_kindItems_iff.mpr (Or.inr ⟨row, hrow, hmem⟩)
  simpa only [List.map_flatMap, SensorSection.instanceItems_eq_map_namesOf, List.map_map, Function.comp_def,
    Item.identifier] using hidentifiers

theorem isFor_moduleOf (h : d.resolve = .ok t) (ha : Artifact.ofTopology t dispositions o = .ok a)
    (hfull : o.standalone = false) (hsensors : .sensors ∈ dispositions) {e : String × DeviceGroup}
    (he : e ∈ t.groups.entries) : (SensorSection.moduleOf t e.1 e.2).IsFor d e.1 := by
  have hconstants := nodup_constants h ha hfull hsensors he
  obtain ⟨kind, g⟩ := e
  obtain rfl := Topology.group_of_get? (OrderedMap.mem_entries_iff.mp he)
  refine
    { name_eq := by simp only [SensorSection.moduleOf]
      columns := ⟨_, SensorSection.sublist_kindsOf _, rfl⟩
      ids_ne_nil := fun column hcolumn => ?_
      devices := ?_
      length_ids := fun s hs => ?_
      constants := fun s hs => ?_
      distinct := ?_ }
  · obtain ⟨k, hk, rfl⟩ := List.mem_map.mp hcolumn
    obtain ⟨row, hrow, r, hr, hkind⟩ := SensorSection.mem_kindsOf.mp hk
    obtain ⟨id, hid⟩ := List.exists_mem_of_ne_nil _ (ids_ne_nil_of_mem_ranges h hr)
    rw [show (SensorSection.columnOf k).kind = k from rfl, SensorSection.idsOfKind_moduleOf kind _ hk]
    refine List.ne_nil_of_mem (a := id) (List.mem_flatMap.mpr ⟨row, hrow, List.mem_flatMap.mpr ⟨r, ?_, hid⟩⟩)
    exact List.mem_filter.mpr ⟨hr, beq_iff_eq.mpr hkind⟩
  · have hdevices := enumerates_sensing h kind
    rw [SensorSection.moduleOf, List.map_map]
    exact (List.map_id _).symm ▸ hdevices
  · obtain ⟨row, -, rfl⟩ := List.mem_map.mp hs
    simp only [SensorSection.moduleOf, SensorSection.instanceOf, List.length_map]
  · obtain ⟨row, hrow, rfl⟩ := List.mem_map.mp hs
    obtain ⟨e, hrow', -, -⟩ := SensorSection.mem_sensing_iff h |>.mp hrow
    exact ⟨e, hrow', by simp only [SensorSection.instanceOf, namesOf_eq h hrow']⟩
  · simpa only [SensorSection.moduleOf, SensorSection.instanceOf, List.flatMap_map] using hconstants

theorem nodup_moduleNames (h : d.resolve = .ok t) (ha : Artifact.ofTopology t dispositions o = .ok a)
    (hfull : o.standalone = false) (hsensors : .sensors ∈ dispositions) :
    ((SensorSection.listed t).groups.map (·.name)).Nodup := by
  have hown := (List.filter_sublist (p := fun e : String × DeviceGroup => !(SensorSection.sensing t e.2).isEmpty)
    (l := t.groups.entries)).map Prod.fst
  have hitems : (((t.groups.entries.filter fun e => !(SensorSection.sensing t e.2).isEmpty).map Prod.fst).map
      Item.sensors).Nodup :=
    (t.groups.nodup_keys.sublist hown).map fun _ _ e => by simpa using e
  have hidentifiers := nodup_identifiers h ha hfull hitems .sensors fun b hb => by
    rw [List.map_map] at hb
    obtain ⟨e, he, rfl⟩ := List.mem_map.mp hb
    obtain ⟨hmem, hsome⟩ := List.mem_filter.mp he
    rw [Bool.not_eq_true', List.isEmpty_eq_false_iff_exists_mem] at hsome
    refine ⟨namedIn_of_mem_sensorItems h hsensors (List.mem_flatMap.mpr ⟨e, hmem, ?_⟩), rfl⟩
    exact SensorSection.mem_kindItems_iff.mpr (Or.inl ⟨rfl, hsome⟩)
  simpa only [SensorSection.listed, SensorSection.modulesOf, SensorSection.moduleOf, List.map_map, Function.comp_def,
    Item.identifier] using hidentifiers

/-- The modules are those of the kinds of devices with sensors, in order. -/
theorem modules_listed (h : d.resolve = .ok t) (ha : Artifact.ofTopology t dispositions o = .ok a)
    (hfull : o.standalone = false) (hsensors : .sensors ∈ dispositions) :
    ∃ own : List String, own.Sublist d.kinds ∧ (∀ kind, kind ∈ own ↔ ∃ row, d.Senses kind row) ∧
      List.Forall₂ (SensorModule.IsFor d) own (SensorSection.listed t).groups := by
  have hown := List.filter_sublist (p := fun e : String × DeviceGroup => !(SensorSection.sensing t e.2).isEmpty)
    (l := t.groups.entries)
  rw [← keys_groups_of_resolve h]
  refine ⟨_, hown.map Prod.fst, fun kind => ?_, ?_⟩
  · rw [t.mem_kinds_filter_iff (p := fun g => !(SensorSection.sensing t g).isEmpty) rfl, Bool.not_eq_true',
      List.isEmpty_eq_false_iff_exists_mem]
    exact exists_congr (enumerates_sensing h kind).mem_iff
  · exact forall₂_map_map fun e he => isFor_moduleOf h ha hfull hsensors (hown.subset he)

/-- Each device with sensors has one record. -/
theorem perm_devices_listed (h : d.resolve = .ok t) :
    ((SensorSection.listed t).groups.flatMap fun m => m.instances.map (·.device)).Perm
      (d.devices.findIdxs fun e => 0 < e.sensors.total) := by
  have hrows : ((SensorSection.listed t).groups.flatMap fun m => m.instances.map (·.device)) =
      t.groups.entries.flatMap fun e => SensorSection.sensing t e.2 := by
    rw [SensorSection.listed, SensorSection.modulesOf, List.flatMap_map, ← KeyedList.flatMap_filter_of_nil
      (p := fun e => !(SensorSection.sensing t e.2).isEmpty) (l := t.groups.entries) fun e _ he => ?_]
    · refine List.flatMap_congr fun e _ => ?_
      rw [SensorSection.moduleOf, List.map_map]
      exact List.map_id _
    · rwa [Bool.not_eq_false', List.isEmpty_iff] at he
  have hsensing : Enumerates ((List.range t.devices.length).filter fun row => !(t.sensors.ranges row).isEmpty)
      fun row => ∃ e, d.devices[row]? = some e ∧ decide (0 < e.sensors.total) = true := by
    refine ⟨List.pairwise_lt_range.filter _, fun row => ?_⟩
    rw [List.mem_filter, List.mem_range, (covers_of_resolve h).length_devices]
    constructor
    · rintro ⟨hrow, hsome⟩
      have he := List.getElem?_eq_getElem hrow
      refine ⟨_, he, decide_eq_true (Nat.pos_of_ne_zero fun hzero => ?_)⟩
      rw [(SensorSection.isEmpty_ranges_iff h he).mpr hzero] at hsome
      cases hsome
    · rintro ⟨e, he, hpositive⟩
      refine ⟨(List.getElem?_eq_some_iff.mp he).1, ?_⟩
      rw [Bool.not_eq_true', Bool.eq_false_iff, ne_eq, SensorSection.isEmpty_ranges_iff h he]
      exact Nat.ne_of_gt (of_decide_eq_true hpositive)
  rw [hrows]
  exact (SensorSection.perm_flatMap_sensing (indexed_of_resolve h).partition).trans
    (hsensing.perm (Enumerates.findIdxs d.devices _))

theorem tabulatedBy_listed (h : d.resolve = .ok t) (ha : Artifact.ofTopology t dispositions o = .ok a)
    (hfull : o.standalone = false) (hsensors : .sensors ∈ dispositions) :
    d.TabulatedBy t.sensors (SensorSection.listed t) := by
  have hentries := perm_entries_bindings h
  have hbinds := binds_of_resolve h
  refine
    { entries := hentries
      total_eq := rfl
      ids := ?_
      perKind_eq := ?_
      counts := fun n hn => ?_
      sum_counts := ?_
      modules := modules_listed h ha hfull hsensors
      distinct := nodup_moduleNames h ha hfull hsensors
      devices := perm_devices_listed h }
  · have hids := hentries.map (·.id)
    rwa [SensorTable.map_id_flatMap_entries, (numbers_of_resolve h).ids_eq] at hids
  · simp only [SensorSection.listed, List.map_map, Function.comp_def, SensorSection.countConstant]
  · obtain ⟨k, -, rfl⟩ := List.mem_map.mp hn
    rw [hentries.countP_eq, hbinds.countP_entries, hbinds.perKind k]
    rfl
  · have htotal := sum_map_count_eq_sum_total d.devices
    rw [← (covers_of_resolve h).sensors] at htotal
    simpa only [SensorSection.listed, List.map_map, Function.comp_def, hbinds.perKind, Option.getD_some] using htotal

end Document

namespace FanBetweenProbes

/-- A fan controller and a device without sensors are between two probes, the second of which has another kind of
sensors and two names. -/
def document : Document where
  controllers := [{ controller := 2, ports := .ofList [("A", { name := some "main" })] }]
  devices := [
    { device := "tmp117", bus := some "main", address := 0x48, names := ["inlet"], sensors := { temperature := 1 } },
    { device := "at24csw080", bus := some "main", address := 0x50, names := ["fru"] },
    { device := "max31790", bus := some "main", address := 0x20, names := ["fan 1"],
      sensors := { temperature := 1, speed := 2 } },
    { device := "tmp117", bus := some "main", address := 0x49, names := ["outlet", "Rear"],
      sensors := { temperature := 2, voltage := 1 } }]

def board : Topology := document.resolve.toOption.getD {}

/-- The ids of the probes are in one table, with an empty column entry for the first of them. -/
def artifact : Artifact where
  moduleName := "i2c_config"
  corePath := "i2c_core"
  standalone := false
  devices := board.devices.map DeviceRow.ofDevice
  bus := none
  accessors := none
  sensors := some
    { total := 7
      perKind := [⟨.temperature, "NUM_TEMPERATURE_SENSORS", 4⟩, ⟨.power, "NUM_POWER_SENSORS", 0⟩,
        ⟨.current, "NUM_CURRENT_SENSORS", 0⟩, ⟨.voltage, "NUM_VOLTAGE_SENSORS", 1⟩,
        ⟨.inputCurrent, "NUM_INPUT_CURRENT_SENSORS", 0⟩, ⟨.inputVoltage, "NUM_INPUT_VOLTAGE_SENSORS", 0⟩,
        ⟨.speed, "NUM_SPEED_SENSORS", 2⟩]
      groups := [
        ⟨"tmp117", [⟨.temperature, "temperature", "TEMPERATURE"⟩, ⟨.voltage, "voltage", "VOLTAGE"⟩],
          [⟨0, ["INLET"], [[0], []]⟩, ⟨3, ["OUTLET", "REAR"], [[4, 5], [6]]⟩]⟩,
        ⟨"max31790", [⟨.temperature, "temperature", "TEMPERATURE"⟩, ⟨.speed, "speed", "SPEED"⟩],
          [⟨2, ["FAN_1"], [[1], [2, 3]]⟩]⟩]
      bindings := board.sensors.bindings }
  validation := none

end FanBetweenProbes

end I2cTopology
