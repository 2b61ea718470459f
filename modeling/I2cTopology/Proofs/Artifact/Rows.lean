import I2cTopology.Artifact.Source
import I2cTopology.Proofs.Artifact.Contents
import I2cTopology.Proofs.Resolution.Groups

/-!
# The rows that a text takes

The text of an artifact is written row by row: what takes rows from the table of devices succeeds if they are all
there, and otherwise tells the first that is not (`Artifact.Takes`). So an artifact has a text exactly when the table
has each row that the text takes (`Artifact.writtenRows`, `Artifact.takes_render`), and the artifact of a resolved
document always has one (`Artifact.exists_render`).
-/

namespace I2cTopology

/-! ## Taking rows one by one -/

namespace Artifact

variable {α β : Type} {a : Artifact}

/-- A result for which rows are taken in order: the first one that the table lacks is an error. -/
def Takes (a : Artifact) (rows : List Nat) (x : Except EmitError α) : Prop :=
  match rows.find? fun row => a.devices.length ≤ row with
  | none => ∃ value, x = .ok value
  | some row => x = .error (.missingDevice row)

theorem takes_ok (a : Artifact) (value : α) : a.Takes [] (.ok value) := ⟨value, rfl⟩

theorem takes_row (a : Artifact) (row : Nat) : a.Takes [row] (a.row row) := by
  unfold Takes Artifact.row
  by_cases h : a.devices.length ≤ row
  · simp [h]
  · simp [h, List.getElem?_eq_getElem (Nat.lt_of_not_le h)]

theorem Takes.bind {rows rows' : List Nat} {x : Except EmitError α} {f : α → Except EmitError β} (h : a.Takes rows x)
    (hnext : ∀ value, a.Takes rows' (f value)) : a.Takes (rows ++ rows') (x >>= f) := by
  unfold Takes at h ⊢
  rw [List.find?_append]
  cases hfind : rows.find? fun row => a.devices.length ≤ row with
  | none =>
    rw [hfind] at h
    obtain ⟨value, rfl⟩ := h
    exact hnext value
  | some row =>
    rw [hfind] at h
    obtain rfl := h
    rfl

/-- What is made of a result takes no further rows. -/
theorem Takes.done {rows : List Nat} {x : Except EmitError α} (h : a.Takes rows x) (f : α → β) :
    a.Takes rows (x >>= fun value => .ok (f value)) := by
  have hbind := h.bind (f := fun value => .ok (f value)) fun value => a.takes_ok (f value)
  rwa [List.append_nil] at hbind

theorem Takes.map {rows : List Nat} {x : Except EmitError α} (h : a.Takes rows x) (f : α → β) :
    a.Takes rows (x.map f) := by
  have hdone := h.done f
  cases x <;> exact hdone

theorem takes_linesOf {f : α → Except EmitError (List Line)} {rows : α → List Nat}
    (h : ∀ item, a.Takes (rows item) (f item)) (items : List α) : a.Takes (items.flatMap rows) (linesOf f items) := by
  induction items with
  | nil => exact a.takes_ok []
  | cons item items ih =>
    rw [linesOf_cons, List.flatMap_cons]
    exact (h item).bind fun _ => ih.map _

/-- A result for which only rows of the table are taken. -/
theorem Takes.exists_ok {rows : List Nat} {x : Except EmitError α} (h : a.Takes rows x)
    (hrows : ∀ row ∈ rows, row < a.devices.length) : ∃ value, x = .ok value := by
  have hnone : rows.find? (fun row => a.devices.length ≤ row) = none :=
    List.find?_eq_none.mpr fun row hrow => by simpa using hrows row hrow
  unfold Takes at h
  rw [hnone] at h
  exact h

end Artifact

/-! ## The rows of a text -/

/-- The rows that the accessors refer to, in the order in which they are written. -/
def AccessorSection.rows (s : AccessorSection) : List Nat :=
  s.byKind.flatMap (·.value) ++ (s.byName.flatMap fun m => m.accessors.map (·.value)) ++
    (s.byRefdes.flatMap fun m => m.accessors.map (·.value)) ++
    (s.byBus.flatMap fun m => m.accessors.flatMap (·.value)) ++ s.rails.flatMap fun r => r.entries.map Prod.fst

/-- The rows of the devices with sensors, in the order in which they are written. -/
def SensorSection.rows (s : SensorSection) : List Nat := s.groups.flatMap fun m => m.instances.map (·.device)

namespace Artifact

/-- The rows that the text of an artifact takes, in order. Nothing is looked up for a lone task's stand-ins. -/
def writtenRows (a : Artifact) : List Nat :=
  (if a.standalone then [] else a.accessors.toList.flatMap (·.rows)) ++ a.sensors.toList.flatMap (·.rows) ++
    a.validation.toList.flatMap fun arms => arms.map (·.device)

variable (a : Artifact)

theorem takes_singleLines (f : Accessor Nat) : a.Takes [f.value] (a.singleLines f) := (a.takes_row f.value).done _

theorem takes_severalLines (f : Accessor (List Nat)) : a.Takes f.value (a.severalLines f) := by
  have helements := takes_linesOf (fun i => (a.takes_row i).map fun d => [d.note, ⟨0, d.place.text ++ ","⟩]) f.value
  rw [List.flatMap_singleton'] at helements
  exact helements.done _

theorem takes_familyLines {α : Type} {rows : Accessor α → List Nat} (name : String) (modules : List (KindModule α))
    {accessor : Accessor α → Except EmitError (List Line)} (h : ∀ f, a.Takes (rows f) (accessor f)) :
    a.Takes (modules.flatMap fun m => m.accessors.flatMap rows) (a.familyLines name modules accessor) :=
  (takes_linesOf (fun m : KindModule α => (takes_linesOf h m.accessors).map _) modules).done _

theorem takes_railLines (r : RailAccessor) : a.Takes (r.entries.map Prod.fst) (a.railLines r) := by
  have helements := takes_linesOf (a := a) (fun e : Nat × Nat => (a.takes_row e.1).map fun d =>
    [d.note, ⟨0, s!"({d.place.text}, {e.2}),"⟩]) r.entries
  rw [← List.map_eq_flatMap] at helements
  exact helements.done _

theorem takes_accessorLines (s : AccessorSection) :
    a.Takes (if a.standalone then [] else s.rows) (a.accessorLines s) := by
  unfold accessorLines
  split
  · exact a.takes_ok _
  · simp only [AccessorSection.rows, List.append_assoc, List.map_eq_flatMap]
    refine (takes_linesOf a.takes_severalLines s.byKind).bind fun _ => ?_
    refine (a.takes_familyLines "by_name" s.byName a.takes_singleLines).bind fun _ => ?_
    refine (a.takes_familyLines "by_refdes" s.byRefdes a.takes_singleLines).bind fun _ => ?_
    refine (a.takes_familyLines "by_bus" s.byBus a.takes_severalLines).bind fun _ => ?_
    have hrails := takes_linesOf a.takes_railLines s.rails
    simp only [List.map_eq_flatMap] at hrails
    exact hrails.done _

theorem takes_sensorModuleLines (m : SensorModule) : a.Takes (m.instances.map (·.device)) (a.sensorModuleLines m) := by
  rw [List.map_eq_flatMap]
  exact (takes_linesOf (fun s : SensorInstance => (a.takes_row s.device).done _) m.instances).done _

theorem takes_sensorLines (s : SensorSection) : a.Takes s.rows (a.sensorLines s) :=
  (takes_linesOf a.takes_sensorModuleLines s.groups).done _

theorem takes_validationLines (arms : List ValidationArm) :
    a.Takes (arms.map (·.device)) (a.validationLines arms) := by
  rw [List.map_eq_flatMap]
  exact (takes_linesOf (fun arm : ValidationArm => (a.takes_row arm.device).done _) arms).map _

/-- A part takes its rows, if the artifact has it. -/
theorem takes_partLines {α : Type} {lines : α → Except EmitError (List Line)} {rows : α → List Nat}
    (h : ∀ s, a.Takes (rows s) (lines s)) (part : Option α) :
    a.Takes (part.toList.flatMap rows) (partLines lines part) := by
  cases part with
  | none => exact a.takes_ok []
  | some s =>
    rw [Option.toList_some, List.flatMap_singleton]
    exact h s

/-- The text of an artifact takes its rows in order. -/
theorem takes_render : a.Takes a.writtenRows a.render := by
  have haccessors := a.takes_partLines a.takes_accessorLines a.accessors
  have hrows : (a.accessors.toList.flatMap fun s => if a.standalone then [] else s.rows) =
      if a.standalone then [] else a.accessors.toList.flatMap (·.rows) := by
    split <;> simp
  rw [hrows] at haccessors
  have hbus := a.takes_partLines (fun s : BusSection => a.takes_ok (s.lines a.corePath a.standalone)) a.bus
  have hnone : (a.bus.toList.flatMap fun _ => ([] : List Nat)) = [] := by simp
  rw [hnone] at hbus
  refine Takes.map (α := List Line) ?_ _
  rw [writtenRows, List.append_assoc]
  refine hbus.bind fun _ => haccessors.bind fun _ => ?_
  exact (a.takes_partLines a.takes_sensorLines a.sensors).bind fun _ =>
    (a.takes_partLines a.takes_validationLines a.validation).done _

end Artifact

/-! ## The rows of the artifact of a board -/

namespace AccessorSection

/-- What the modules of a family refer to is what is found in a group. -/
theorem exists_entry_of_mem_modulesOf {α : Type} {part : DeviceGroup → OrderedMap String α}
    {groups : List (String × DeviceGroup)} (rows : α → List Nat) {row : Nat}
    (h : row ∈ (modulesOf part groups).flatMap fun m => m.accessors.flatMap fun f => rows f.value) :
    ∃ e ∈ groups, ∃ entry ∈ (part e.2).entries, row ∈ rows entry.2 := by
  obtain ⟨m, hm, hmem⟩ := List.mem_flatMap.mp h
  obtain ⟨f, hf, hrow⟩ := List.mem_flatMap.mp hmem
  rw [modulesOf_eq] at hm
  obtain ⟨e, he, rfl⟩ := List.mem_map.mp hm
  obtain ⟨entry, hentry, rfl⟩ := List.mem_map.mp hf
  exact ⟨e, (List.mem_filter.mp he).1, entry, hentry, hrow⟩

theorem rows_lt {t : Topology} {n : Nat} (hgroups : ∀ e ∈ t.groups.entries, ∀ row ∈ e.2.rows, row < n)
    (hclaims : ∀ e ∈ t.rails.entries, ∀ claim ∈ e.2, claim.device < n) {s : AccessorSection}
    (h : ofTopology t false = .ok s) : ∀ row ∈ s.rows, row < n := by
  obtain rfl := eq_listed_of_ofTopology h
  intro row hrow
  simp only [rows, List.mem_append, or_assoc, List.map_eq_flatMap] at hrow
  rcases hrow with hkind | hname | hrefdes | hbus | hrail
  · obtain ⟨f, hf, hmem⟩ := List.mem_flatMap.mp hkind
    obtain ⟨e, he, rfl⟩ := List.mem_map.mp hf
    exact hgroups e he row (by simp [DeviceGroup.rows, show row ∈ e.2.devices from hmem])
  · obtain ⟨e, he, entry, hentry, hmem⟩ := exists_entry_of_mem_modulesOf (fun i => [i]) hname
    obtain rfl := List.mem_singleton.mp hmem
    exact hgroups e he _ (by simp [DeviceGroup.rows, List.mem_map_of_mem (f := Prod.snd) hentry])
  · obtain ⟨e, he, entry, hentry, hmem⟩ := exists_entry_of_mem_modulesOf (fun i => [i]) hrefdes
    obtain rfl := List.mem_singleton.mp hmem
    exact hgroups e he _ (by simp [DeviceGroup.rows, List.mem_map_of_mem (f := Prod.snd) hentry])
  · obtain ⟨e, he, entry, hentry, hmem⟩ := exists_entry_of_mem_modulesOf id hbus
    exact hgroups e he row (List.mem_append_right _ (List.mem_flatMap.mpr ⟨entry, hentry, hmem⟩))
  · obtain ⟨r, hr, hmem⟩ := List.mem_flatMap.mp hrail
    obtain ⟨e, he, rfl⟩ := List.mem_map.mp hr
    obtain ⟨entry, hentry, hrow⟩ := List.mem_flatMap.mp hmem
    obtain ⟨claim, hclaim, rfl⟩ := List.mem_map.mp hentry
    obtain rfl := List.mem_singleton.mp hrow
    exact hclaims e he claim hclaim

end AccessorSection

namespace SensorSection

theorem rows_lt {t : Topology} {n : Nat} (hgroups : ∀ e ∈ t.groups.entries, ∀ row ∈ e.2.rows, row < n)
    {s : SensorSection} (h : ofTopology t false = .ok s) : ∀ row ∈ s.rows, row < n := by
  obtain rfl := eq_listed_of_ofTopology h
  intro row hrow
  obtain ⟨m, hm, hmem⟩ := List.mem_flatMap.mp hrow
  obtain ⟨e, he, rfl⟩ := List.mem_map.mp hm
  obtain ⟨_, hs, rfl⟩ := List.mem_map.mp hmem
  obtain ⟨device, hdevice, rfl⟩ := List.mem_map.mp hs
  have hrows := (List.mem_filter.mp hdevice).1
  exact hgroups e (List.mem_filter.mp he).1 device (by simp [DeviceGroup.rows, hrows])

end SensorSection

theorem EmitOptions.device_lt {o : EmitOptions} {rows : List DeviceRow} {arm : ValidationArm}
    (h : arm ∈ o.validationArms rows) : arm.device < rows.length := by
  obtain ⟨⟨row, i⟩, hi, rfl⟩ := List.mem_map.mp h
  exact List.snd_lt_of_mem_zipIdx hi

namespace Artifact

/-- The text of the artifact of a board takes rows of its table only. -/
theorem writtenRows_lt {d : Document} {t : Topology} (hresolve : d.resolve = .ok t) {dispositions : List Disposition}
    {o : EmitOptions} {a : Artifact} (ha : Artifact.ofTopology t dispositions o = .ok a) :
    ∀ row ∈ a.writtenRows, row < a.devices.length := by
  obtain ⟨-, -, -, hstandalone, hdevices, -, haccessors, hsensors, hvalidation⟩ := ofTopology_eq_ok_iff.mp ha
  intro row hrow
  simp only [writtenRows, List.mem_append, List.mem_flatMap, Option.mem_toList] at hrow
  rcases hrow with (hrow | ⟨s, hs, hrow⟩) | ⟨arms, harms, hrow⟩
  · split at hrow
    · cases hrow
    · rename_i hfull
      rw [hstandalone, Bool.not_eq_true] at hfull
      obtain ⟨s, hs, hmem⟩ := List.mem_flatMap.mp hrow
      rw [Option.mem_toList.mp hs, part_eq_some_iff, hfull] at haccessors
      have hlt := AccessorSection.rows_lt (fun e he => Document.groupRows_lt hresolve he)
        (fun e he => Document.claims_lt hresolve he) haccessors.2 row hmem
      simpa [hdevices, hfull] using hlt
  · rw [hs, part_eq_some_iff] at hsensors
    cases hfull : o.standalone with
    | true =>
      rw [hfull] at hsensors
      obtain rfl := Except.ok.inj hsensors.2
      cases hrow
    | false =>
      rw [hfull] at hsensors
      have hlt := SensorSection.rows_lt (fun e he => Document.groupRows_lt hresolve he) hsensors.2 row hrow
      simpa [hdevices, hfull] using hlt
  · rw [harms] at hvalidation
    split at hvalidation
    · obtain rfl := Option.some.inj hvalidation
      obtain ⟨arm, harm, rfl⟩ := List.mem_map.mp hrow
      exact EmitOptions.device_lt harm
    · cases hvalidation

/-- The artifact of a resolved document has a text. -/
theorem exists_render {d : Document} {t : Topology} (hresolve : d.resolve = .ok t) {dispositions : List Disposition}
    {o : EmitOptions} {a : Artifact} (ha : Artifact.ofTopology t dispositions o = .ok a) :
    ∃ text, a.render = .ok text :=
  a.takes_render.exists_ok (writtenRows_lt hresolve ha)

end Artifact

end I2cTopology
