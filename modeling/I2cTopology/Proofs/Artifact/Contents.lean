import I2cTopology.Proofs.Artifact.Demands

/-!
# What the parts of an artifact list

The parts of an artifact that are made group by group come to lists that can be told at once: the accessors of a board
(`AccessorSection.listed`) and its sensor ids (`SensorSection.listed`). A part that is made is the one that is listed
(`AccessorSection.eq_listed_of_ofTopology`, `SensorSection.eq_listed_of_ofTopology`).
-/

namespace I2cTopology

/-! ## Accessors -/

namespace AccessorSection

variable {α : Type}

/-- Accessors for the entries of a map, named by its keys. -/
def accessorsOf (m : OrderedMap String α) : List (Accessor α) :=
  m.entries.map fun e => ⟨Identifier.snake e.1, e.2⟩

/-- The modules of a family of accessors, one for each group that has any. -/
def modulesOf (part : DeviceGroup → OrderedMap String α) (groups : List (String × DeviceGroup)) :
    List (KindModule α) :=
  groups.flatMap fun e => moduleOf (Identifier.snake e.1) (accessorsOf (part e.2))

/-- The accessors of some groups. -/
def ofGroups (groups : List (String × DeviceGroup)) : AccessorSection where
  byKind := groups.map fun e => ⟨Identifier.snake e.1, e.2.devices⟩
  byName := modulesOf (·.byName) groups
  byRefdes := modulesOf (·.byRefdes) groups
  byBus := modulesOf (·.byBus) groups

/-- The accessors of a board. -/
def listed (t : Topology) : AccessorSection :=
  { ofGroups t.groups.entries with
    rails := t.rails.entries.map fun e =>
      ⟨Identifier.snake e.1, e.1, e.2.map fun claim => (claim.device, claim.index)⟩ }

theorem map_function_accessorsOf (m : OrderedMap String α) :
    (accessorsOf m).map (·.function) = m.keys.map Identifier.snake := by
  simp only [accessorsOf, OrderedMap.keys, List.map_map, Function.comp_def]

theorem eq_accessorsOf_of_ofEntries {owner : String → String} {m : OrderedMap String α} {accessors : List (Accessor α)}
    (h : ofEntries owner m.entries = .ok accessors) : accessors = accessorsOf m := by
  simp [ofEntries] at h
  obtain ⟨-, -, rfl⟩ := h
  rfl

/-- The accessors of one more kind. -/
theorem addKind_ofGroups {acc next : Scope × AccessorSection} {groups : List (String × DeviceGroup)}
    {entry : String × DeviceGroup} (hacc : acc.2 = ofGroups groups) (h : addKind acc entry = .ok next) :
    next.2 = ofGroups (groups ++ [entry]) := by
  obtain ⟨kind, g⟩ := entry
  simp [addKind] at h
  obtain ⟨scope, -, byName, hname, byRefdes, hrefdes, byBus, hbus, rfl⟩ := h
  obtain rfl := eq_accessorsOf_of_ofEntries hname
  obtain rfl := eq_accessorsOf_of_ofEntries hrefdes
  obtain rfl := eq_accessorsOf_of_ofEntries hbus
  simp [hacc, ofGroups, modulesOf, List.flatMap_append]

theorem eq_listed_of_ofTopology {t : Topology} {s : AccessorSection} (h : ofTopology t false = .ok s) :
    s = listed t := by
  simp [ofTopology, railsOf] at h
  obtain ⟨scope, acc, hwalk, -, rfl⟩ := h
  have hgroups := foldlM_keeps (fun groups (acc : Scope × AccessorSection) => acc.2 = ofGroups groups)
    addKind_ofGroups [] rfl hwalk
  obtain rfl : acc = _ := hgroups
  rfl

/-- The modules of a family are those of the groups that have something to put into them. -/
theorem modulesOf_eq (part : DeviceGroup → OrderedMap String α) (groups : List (String × DeviceGroup)) :
    modulesOf part groups = (groups.filter fun e => !(part e.2).keys.isEmpty).map fun e =>
      ⟨Identifier.snake e.1, accessorsOf (part e.2)⟩ := by
  unfold modulesOf
  induction groups with
  | nil => rfl
  | cons e groups ih =>
    obtain ⟨kind, g⟩ := e
    have hempty : (accessorsOf (part g)).isEmpty = (part g).keys.isEmpty := by
      simp [accessorsOf, OrderedMap.keys]
    rw [List.flatMap_cons, List.filter_cons, ih]
    simp only [moduleOf, hempty]
    cases (part g).keys.isEmpty <;> rfl

end AccessorSection

/-! ## Sensors -/

namespace SensorSection

variable {t : Topology}

/-- The ids of a device of one kind. -/
def idsOf (t : Topology) (device : Nat) (kind : SensorKind) : List Nat :=
  SensorBinding.ids ⟨device, t.sensors.ranges device⟩ kind

/-- The names of a device. -/
def namesOf (t : Topology) (device : Nat) : List String :=
  match t.devices[device]? with
  | some b => b.names
  | none => []

theorem instanceItems_eq_map_namesOf (kind : String) (device : Nat) :
    instanceItems t kind device = (namesOf t device).map (.sensorName kind) := by
  unfold instanceItems namesOf
  cases t.devices[device]? with
  | none => rfl
  | some b => exact List.append_nil _

/-- The record of a device with a column for each of some kinds. -/
def instanceOf (t : Topology) (kinds : List SensorKind) (device : Nat) : SensorInstance :=
  ⟨device, (namesOf t device).map Identifier.upper, kinds.map (idsOf t device)⟩

/-- The column of a kind. -/
def columnOf (kind : SensorKind) : SensorColumn := ⟨kind, Identifier.snake kind.name, Identifier.upper kind.name⟩

/-- The module of a kind whose devices `g` lists. -/
def moduleOf (t : Topology) (kind : String) (g : DeviceGroup) : SensorModule :=
  let kinds := kindsOf t.sensors (sensing t g)
  ⟨Identifier.snake kind, kinds.map columnOf, (sensing t g).map (instanceOf t kinds)⟩

/-- The modules of the groups that have devices with sensors. -/
def modulesOf (t : Topology) (groups : List (String × DeviceGroup)) : List SensorModule :=
  (groups.filter fun e => !(sensing t e.2).isEmpty).map fun e => moduleOf t e.1 e.2

/-- The sensor ids of a board. -/
def listed (t : Topology) : SensorSection where
  total := t.sensors.total
  perKind := SensorKind.all.map fun k => ⟨k, countConstant k, (t.sensors.perKind.get? k).getD 0⟩
  groups := modulesOf t t.groups.entries
  bindings := t.sensors.bindings

/-- A device is entered with its record. -/
theorem addInstance_instanceOf {kind : String} {kinds : List SensorKind} {acc next : Scope × List SensorInstance}
    {device : Nat} (h : addInstance t kind kinds acc device = .ok next) :
    next.2 = acc.2 ++ [instanceOf t kinds device] := by
  unfold addInstance at h
  split at h
  · cases h
  · cases h
  · rename_i binding b hbinding hb
    simp at h
    obtain ⟨scope, -, rfl⟩ := h
    have hids : idsOf t device = binding.ids := by
      unfold idsOf SensorTable.ranges
      rw [hbinding]
      rfl
    rw [instanceOf, hids, namesOf, hb]

theorem addKind_modulesOf {acc next : Scope × List SensorModule} {groups : List (String × DeviceGroup)}
    {entry : String × DeviceGroup} (hacc : acc.2 = modulesOf t groups) (h : addKind t acc entry = .ok next) :
    next.2 = modulesOf t (groups ++ [entry]) := by
  obtain ⟨kind, g⟩ := entry
  simp only [addKind] at h
  rw [modulesOf, List.filter_append, List.map_append, ← modulesOf, ← hacc, List.filter_singleton]
  split at h
  · rename_i hnone
    obtain rfl := Except.ok.inj h
    simp [show (sensing t g).isEmpty = true from hnone]
  · rename_i hsome
    simp at h
    obtain ⟨scope, -, _, instances, hwalk, rfl⟩ := h
    have hinstances := foldlM_keeps (fun devices (acc : Scope × List SensorInstance) =>
      acc.2 = devices.map (instanceOf t (kindsOf t.sensors (sensing t g))))
      (fun {before acc device next} hbefore hstep => by
        rw [addInstance_instanceOf hstep, hbefore, List.map_append]
        rfl)
      [] rfl hwalk
    obtain rfl : instances = _ := hinstances
    simp only [show (sensing t g).isEmpty = false from Bool.eq_false_iff.mpr hsome]
    rfl

theorem eq_listed_of_ofTopology {s : SensorSection} (h : ofTopology t false = .ok s) : s = listed t := by
  simp [ofTopology] at h
  obtain ⟨scope, groups, hwalk, rfl⟩ := h
  have hgroups := foldlM_keeps (fun groups (acc : Scope × List SensorModule) => acc.2 = modulesOf t groups)
    addKind_modulesOf [] rfl hwalk
  obtain rfl : groups = _ := hgroups
  rfl

end SensorSection

/-! ## Artifacts -/

namespace Artifact

variable {t : Topology} {dispositions : List Disposition} {o : EmitOptions} {a : Artifact}
  (ha : ofTopology t dispositions o = .ok a) (hfull : o.standalone = false)
include ha hfull

theorem accessors_eq (hdevices : .devices ∈ dispositions) : a.accessors = some (AccessorSection.listed t) := by
  have haccessors := (ofTopology_eq_ok_iff.mp ha).accessors_eq
  simp [hdevices, hfull] at haccessors
  obtain ⟨s, hmade, hs⟩ := haccessors
  rw [← hs, AccessorSection.eq_listed_of_ofTopology hmade]

theorem sensors_eq (hsensors : .sensors ∈ dispositions) : a.sensors = some (SensorSection.listed t) := by
  have hsection := (ofTopology_eq_ok_iff.mp ha).sensors_eq
  simp [hsensors, hfull] at hsection
  obtain ⟨s, hmade, hs⟩ := hsection
  rw [← hs, SensorSection.eq_listed_of_ofTopology hmade]

end Artifact

end I2cTopology
