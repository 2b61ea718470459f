import I2cTopology.Proofs.Artifact.CaseFolding

/-!
# Accessors are complete and unambiguous

`Document.PresentedBy` says what accessors have to be, in terms of the declarations alone: one for each kind, with the
devices of the kind, and in each family one for each key that a device of the kind has, which leads to exactly the
devices with the key. No two of a module have the same identifier, and no two modules of a family. The accessors of a
full artifact are of that form (`Document.presented_by_accessors`).
-/

namespace I2cTopology

/-! ## What accessors are for -/

/-- Accessors for the keys that lead somewhere: one for each of them, named after the key, with what the key leads
to. -/
structure AccessorsFor {α : Type} (leads : String → α → Prop) (accessors : List (Accessor α)) : Prop where
  keyed : ∃ keys : List String, keys.Nodup ∧ (∀ key, key ∈ keys ↔ ∃ value, leads key value) ∧
    List.Forall₂ (fun key f => f.function = Identifier.snake key ∧ leads key f.value) keys accessors
  distinct : (accessors.map (·.function)).Nodup

/-- A family of accessors for kinds that are given in order: a module for each kind with a key that leads somewhere. -/
structure FamilyFor {α : Type} (kinds : List String) (leads : String → String → α → Prop)
    (modules : List (KindModule α)) : Prop where
  keyed : ∃ own : List String, own.Sublist kinds ∧ (∀ kind, kind ∈ own ↔ ∃ key value, leads kind key value) ∧
    List.Forall₂ (fun kind m => m.name = Identifier.snake kind ∧ AccessorsFor (leads kind) m.accessors) own modules
  distinct : (modules.map (·.name)).Nodup

/-- An accessor of a rail, with the row of each device that lists the rail and the one position at which it does. -/
structure RailAccessor.IsFor (d : Document) (rail : String) (r : RailAccessor) : Prop where
  rail_eq : r.rail = rail
  function_eq : r.function = Identifier.snake rail
  devices : Enumerates (r.entries.map Prod.fst) (d.ListsRail rail)
  positions : ∀ entry ∈ r.entries, ∃ e, d.devices[entry.1]? = some e ∧
    ∀ position, e.railNames[position]? = some rail ↔ position = entry.2

namespace Document

/-- A device of a kind is declared in a row. -/
def OfKind (d : Document) (kind : String) (row : Nat) : Prop := ∃ e, d.devices[row]? = some e ∧ e.device = kind

/-- A device of a kind is declared in a row with a name. -/
def Names (d : Document) (kind name : String) (row : Nat) : Prop :=
  ∃ e, d.devices[row]? = some e ∧ e.device = kind ∧ name ∈ e.names

/-- A device of a kind is declared in a row with a reference designator. -/
def Designates (d : Document) (kind refdes : String) (row : Nat) : Prop :=
  ∃ e, d.devices[row]? = some e ∧ e.device = kind ∧ e.refdes = some refdes

/-- Accessors present the devices and the rails of a document. -/
structure PresentedBy (d : Document) (s : AccessorSection) : Prop where
  byKind : List.Forall₂ (fun kind f => f.function = Identifier.snake kind ∧ Enumerates f.value (d.OfKind kind)) d.kinds
    s.byKind
  byKind_distinct : (s.byKind.map (·.function)).Nodup
  byName : FamilyFor d.kinds d.Names s.byName
  byRefdes : FamilyFor d.kinds d.Designates s.byRefdes
  byBus : FamilyFor d.kinds (fun kind bus rows => rows ≠ [] ∧ Enumerates rows (d.OnBus kind bus)) s.byBus
  rails : List.Forall₂ (RailAccessor.IsFor d) d.railNames s.rails
  rails_distinct : (s.rails.map (·.function)).Nodup

end Document

/-! ## Families -/

namespace AccessorSection

variable {α : Type}

/-- The accessors for the entries of a map. -/
theorem accessorsFor_accessorsOf {m : OrderedMap String α} {leads : String → α → Prop}
    (hkeys : ∀ key, key ∈ m.keys ↔ ∃ value, leads key value)
    (hleads : ∀ key value, m.get? key = some value → leads key value)
    (hdistinct : (m.keys.map Identifier.snake).Nodup) : AccessorsFor leads (accessorsOf m) := by
  refine ⟨⟨m.keys, m.nodup_keys, hkeys, forall₂_map_map fun e he => ⟨by simp only, ?_⟩⟩, ?_⟩
  · exact hleads e.1 e.2 (OrderedMap.mem_entries_iff.mp he)
  · rwa [map_function_accessorsOf]

/-- The family of accessors for a part of each group. -/
theorem familyFor_modulesOf {t : Topology} {part : DeviceGroup → OrderedMap String α} (hpart : part {} = {})
    {leads : String → String → α → Prop}
    (hkeys : ∀ kind key, key ∈ (part (t.group kind)).keys ↔ ∃ value, leads kind key value)
    (hleads : ∀ kind key value, (part (t.group kind)).get? key = some value → leads kind key value)
    (hkinds : (t.groups.keys.map Identifier.snake).Nodup)
    (hdistinct : ∀ kind, ((part (t.group kind)).keys.map Identifier.snake).Nodup) :
    FamilyFor t.groups.keys leads (modulesOf part t.groups.entries) := by
  have hown := List.filter_sublist (p := fun e => !(part e.2).keys.isEmpty) (l := t.groups.entries)
  rw [modulesOf_eq]
  refine ⟨⟨_, hown.map Prod.fst, fun kind => ?_, forall₂_map_map fun e he => ⟨by simp only, ?_⟩⟩, ?_⟩
  · have hempty : (!(part {}).keys.isEmpty) = false := by rw [hpart]; rfl
    rw [t.mem_kinds_filter_iff (p := fun g => !(part g).keys.isEmpty) hempty, Bool.not_eq_true',
      List.isEmpty_eq_false_iff_exists_mem]
    exact exists_congr (hkeys kind)
  · obtain ⟨kind, g⟩ := e
    obtain rfl := Topology.group_of_get? (OrderedMap.mem_entries_iff.mp (hown.subset he))
    exact accessorsFor_accessorsOf (hkeys kind) (hleads kind) (hdistinct kind)
  · have hnames := hkinds.sublist ((hown.map Prod.fst).map Identifier.snake)
    simpa only [List.map_map, Function.comp_def] using hnames

end AccessorSection

/-! ## Whole documents -/

/-- No two keys of a board get the same identifier in one module of accessors. -/
structure Topology.Unambiguous (t : Topology) : Prop where
  kinds : (t.groups.keys.map Identifier.snake).Nodup
  names : ∀ kind, ((t.group kind).byName.keys.map Identifier.snake).Nodup
  refdes : ∀ kind, ((t.group kind).byRefdes.keys.map Identifier.snake).Nodup
  buses : ∀ kind, ((t.group kind).byBus.keys.map Identifier.snake).Nodup
  rails : (t.rails.keys.map Identifier.snake).Nodup

namespace Document

variable {d : Document} {t : Topology} {dispositions : List Disposition} {o : EmitOptions} {a : Artifact}

/-- Items of one module have different identifiers in a full artifact. -/
theorem nodup_identifiers (h : d.resolve = .ok t) (ha : Artifact.ofTopology t dispositions o = .ok a)
    (hfull : o.standalone = false) {items : List Item} (hitems : items.Nodup) (home : Home)
    (hnamed : ∀ a ∈ items, a.NamedIn d dispositions ∧ a.home = home) : (items.map Item.identifier).Nodup := by
  have hcompatible := (Artifact.ofTopology_eq_ok_iff.mp ha).compatible
  obtain ⟨-, -, hclash⟩ := (exists_artifact_iff h hcompatible hfull).mp ⟨a, ha⟩
  refine hitems.map_on fun b hb c hc heq => by_contra fun hne => ?_
  obtain ⟨hnamedb, hhomeb⟩ := hnamed b hb
  obtain ⟨hnamedc, hhomec⟩ := hnamed c hc
  exact hclash b c hnamedb hnamedc hne ⟨hhomeb.trans hhomec.symm, heq⟩

/-- In each module of accessors, the identifiers are distinct. -/
theorem unambiguous_of_artifact (h : d.resolve = .ok t) (ha : Artifact.ofTopology t dispositions o = .ok a)
    (hfull : o.standalone = false) (hdevices : .devices ∈ dispositions) : t.Unambiguous := by
  have hcovers := covers_of_resolve h
  have hkeyed := keyed_of_resolve h
  have hmodule : ∀ {keys : List String} (item : String → Item) (home : Home), keys.Nodup → Function.Injective item →
      (∀ key, (item key).identifier = Identifier.snake key) →
      (∀ key ∈ keys, (item key).NamedIn d dispositions ∧ (item key).home = home) →
      (keys.map Identifier.snake).Nodup := by
    intro keys item home hnodup hinjective hidentifier hnamed
    have hids := nodup_identifiers h ha hfull (hnodup.map hinjective) home (List.forall_mem_map.mpr hnamed)
    simpa only [List.map_map, Function.comp_def, hidentifier] using hids
  refine ⟨?_, fun kind => ?_, fun kind => ?_, fun kind => ?_, ?_⟩
  · exact hmodule .kind .kinds t.groups.nodup_keys (fun _ _ e => by simpa using e) (fun _ => rfl) fun kind hkind =>
      ⟨⟨hdevices, (hkeyed.kinds kind).mp hkind⟩, rfl⟩
  · exact hmodule (.name kind) (.names kind) (t.group kind).byName.nodup_keys (fun _ _ e => by simpa using e)
      (fun _ => rfl) fun name hname => ⟨⟨hdevices, (hcovers.names kind).mem_keys_iff.mp hname⟩, rfl⟩
  · exact hmodule (.refdes kind) (.refdes kind) (t.group kind).byRefdes.nodup_keys (fun _ _ e => by simpa using e)
      (fun _ => rfl) fun refdes hmem => ⟨⟨hdevices, by simpa using (hcovers.refdes kind).mem_keys_iff.mp hmem⟩, rfl⟩
  · exact hmodule (.bus kind) (.buses kind) (t.group kind).byBus.nodup_keys (fun _ _ e => by simpa using e)
      (fun _ => rfl) fun bus hbus => ⟨⟨hdevices, (hkeyed.buses kind bus).mp hbus⟩, rfl⟩
  · exact hmodule .rail .rails t.rails.nodup_keys (fun _ _ e => by simpa using e) (fun _ => rfl) fun rail hrail =>
      ⟨⟨hdevices, (hkeyed.rails rail).mp hrail⟩, rfl⟩

theorem enumerates_ofKind (h : d.resolve = .ok t) (kind : String) :
    Enumerates (t.group kind).devices (d.OfKind kind) := by
  rw [(grouped_of_resolve h).devices]
  refine (Enumerates.findIdxs t.devices _).congr fun row =>
    (covers_of_resolve h).exists_row_iff (fun e b hplaced => ?_) row
  obtain ⟨slot, p, -, -, -, rfl⟩ := hplaced
  exact beq_iff_eq

theorem byKind_listed (h : d.resolve = .ok t) :
    List.Forall₂ (fun kind f => f.function = Identifier.snake kind ∧ Enumerates f.value (d.OfKind kind)) d.kinds
      (AccessorSection.listed t).byKind := by
  rw [← keys_groups_of_resolve h]
  refine forall₂_map_map fun e he => ⟨by simp only, ?_⟩
  obtain ⟨kind, g⟩ := e
  obtain rfl := Topology.group_of_get? (OrderedMap.mem_entries_iff.mp he)
  exact enumerates_ofKind h kind

theorem byName_listed (h : d.resolve = .ok t) (hu : t.Unambiguous) :
    FamilyFor d.kinds d.Names (AccessorSection.listed t).byName := by
  have hcovers := covers_of_resolve h
  rw [← keys_groups_of_resolve h]
  refine AccessorSection.familyFor_modulesOf rfl (fun kind name => ?_) (fun kind name row => ?_) hu.kinds hu.names
  · rw [(hcovers.names kind).mem_keys_iff]
    exact KeyedList.exists_getElem?_iff.symm
  · exact (hcovers.names kind name row).mp

theorem byRefdes_listed (h : d.resolve = .ok t) (hu : t.Unambiguous) :
    FamilyFor d.kinds d.Designates (AccessorSection.listed t).byRefdes := by
  have hcovers := covers_of_resolve h
  rw [← keys_groups_of_resolve h]
  refine AccessorSection.familyFor_modulesOf rfl (fun kind refdes => ?_) (fun kind refdes row hrow => ?_) hu.kinds
    hu.refdes
  · rw [(hcovers.refdes kind).mem_keys_iff]
    simp only [Option.mem_toList]
    exact KeyedList.exists_getElem?_iff.symm
  · obtain ⟨e, he, hkind, hmem⟩ := (hcovers.refdes kind refdes row).mp hrow
    exact ⟨e, he, hkind, Option.mem_toList.mp hmem⟩

/-- The accessors of a bus are there exactly if there is a device of the kind on it. -/
theorem byBus_listed (h : d.resolve = .ok t) (hu : t.Unambiguous) :
    FamilyFor d.kinds (fun kind bus rows => rows ≠ [] ∧ Enumerates rows (d.OnBus kind bus))
      (AccessorSection.listed t).byBus := by
  have hlist : ∀ kind bus, Enumerates (((t.group kind).byBus.get? bus).getD []) (d.OnBus kind bus) := fun kind bus =>
    (enumerates_byBus h kind bus).congr fun row => onBus_iff h
  rw [← keys_groups_of_resolve h]
  refine AccessorSection.familyFor_modulesOf rfl (fun kind bus => ?_) (fun kind bus rows hrows => ⟨?_, ?_⟩) hu.kinds
    hu.buses
  · rw [mem_buses_iff h]
    simp only [onBus_iff h]
    constructor
    · rintro ⟨row, hrow⟩
      exact ⟨_, List.ne_nil_of_mem (((hlist kind bus).mem_iff row).mpr hrow), hlist kind bus⟩
    · rintro ⟨rows, hne, hrows⟩
      obtain ⟨row, hrow⟩ := List.exists_mem_of_ne_nil rows hne
      exact ⟨row, (hrows.mem_iff row).mp hrow⟩
  · rintro rfl
    exact (groupsKeyed_of_resolve h).buses kind bus hrows
  · have hfound := hlist kind bus
    rwa [hrows, Option.getD_some] at hfound

theorem rails_listed (h : d.resolve = .ok t) :
    List.Forall₂ (RailAccessor.IsFor d) d.railNames (AccessorSection.listed t).rails := by
  rw [← keys_rails_of_resolve h]
  refine forall₂_map_map fun e he => ?_
  have hclaims := OrderedMap.mem_entries_iff.mp he
  refine ⟨rfl, by simp only, ?_, fun entry hentry => ?_⟩
  · simpa only [List.map_map, Function.comp_def] using enumerates_claims h hclaims
  · obtain ⟨claim, hclaim, rfl⟩ := List.mem_map.mp hentry
    obtain ⟨device, hdevice, hshare⟩ := exists_hasShare h hclaims hclaim
    exact ⟨device, hdevice, hshare.index_iff⟩

theorem presentedBy_listed (h : d.resolve = .ok t) (hu : t.Unambiguous) :
    d.PresentedBy (AccessorSection.listed t) where
  byKind := byKind_listed h
  byKind_distinct := by
    simpa only [AccessorSection.listed, AccessorSection.ofGroups, OrderedMap.keys, List.map_map, Function.comp_def]
      using hu.kinds
  byName := byName_listed h hu
  byRefdes := byRefdes_listed h hu
  byBus := byBus_listed h hu
  rails := rails_listed h
  rails_distinct := by
    simpa only [AccessorSection.listed, OrderedMap.keys, List.map_map, Function.comp_def] using hu.rails

/-- **Accessors are complete and unambiguous.** A full artifact of a resolved document that was asked for accessors has
some that present the devices and the rails of the document. -/
theorem presented_by_accessors (h : d.resolve = .ok t) (ha : Artifact.ofTopology t dispositions o = .ok a)
    (hfull : o.standalone = false) (hdevices : .devices ∈ dispositions) :
    ∃ s, a.accessors = some s ∧ d.PresentedBy s :=
  ⟨_, Artifact.accessors_eq ha hfull hdevices, presentedBy_listed h (unambiguous_of_artifact h ha hfull hdevices)⟩

end Document

namespace AliasedNames

/-- A kind with a device of two names, one of which another kind has too; a device without names, one without a
designator, and one on a port without a name; a rail behind an empty name. -/
def document : Document where
  controllers := [{ controller := 2, ports := .ofList [("A", { name := some "Front" }), ("B", {})] }]
  devices := [
    { device := "tmp117", bus := some "Front", address := 0x48, names := ["Inlet", "air in"], refdes := some "U7" },
    { device := "adm1272", bus := some "Front", address := 0x10, power := some { rails := ["", "V12 sys"] } },
    { device := "tmp117", controller := some 2, port := some "B", address := 0x49, names := ["Outlet"],
      refdes := some "U9" },
    { device := "at24csw080", controller := some 2, port := some "B", address := 0x50, names := ["Inlet"] }]

def board : Topology := document.resolve.toOption.getD {}

/-- The functions that give handles: a kind has a module in a family exactly if one of its devices has a key there. -/
def artifact : Artifact where
  moduleName := "i2c_config"
  corePath := "i2c_core"
  standalone := false
  devices := board.devices.map DeviceRow.ofDevice
  bus := none
  accessors := some
    { byKind := [⟨"tmp117", [0, 2]⟩, ⟨"adm1272", [1]⟩, ⟨"at24csw080", [3]⟩]
      byName := [⟨"tmp117", [⟨"inlet", 0⟩, ⟨"air_in", 0⟩, ⟨"outlet", 2⟩]⟩, ⟨"at24csw080", [⟨"inlet", 3⟩]⟩]
      byRefdes := [⟨"tmp117", [⟨"u7", 0⟩, ⟨"u9", 2⟩]⟩]
      byBus := [⟨"tmp117", [⟨"front", [0]⟩]⟩, ⟨"adm1272", [⟨"front", [1]⟩]⟩]
      rails := [⟨"v12_sys", "V12 sys", [(1, 1)]⟩] }
  sensors := none
  validation := none

theorem presented_by_accessors_aliased :
    document.resolve = .ok board ∧ Artifact.ofTopology board [.devices] {} = .ok artifact ∧
    ∃ s, artifact.accessors = some s ∧ document.PresentedBy s :=
  have hmade : Artifact.ofTopology board [.devices] {} = .ok artifact := rfl
  ⟨rfl, hmade, Document.presented_by_accessors rfl hmade rfl (by decide)⟩

end AliasedNames

end I2cTopology
