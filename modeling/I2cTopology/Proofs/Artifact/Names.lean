import I2cTopology.Proofs.Artifact.Items
import I2cTopology.Proofs.Artifact.Rows
import I2cTopology.Proofs.Artifact.Spelling

/-!
# The names of an artifact

Every name that an artifact takes from its document (`Artifact.names`) is the identifier of an item that the document
has (`Artifact.exists_item_of_mem_names`). Identifiers are spelled as the generated language has it, so each of these
names can be used for its item, unless there is no letter or digit in what the item is named after: then the name is
the lone underscore, by which nothing can be referred to (`Item.isName_identifier_iff`,
`Artifact.names_usable_unless_wordless`).
-/

namespace I2cTopology

/-! ## The names in the parts -/

/-- The names that the setup of controllers takes from the document. -/
def BusSection.names (s : BusSection) : List String := s.ports.map (·.function)

/-- The names in a module of accessors, its own included. -/
def KindModule.names {α : Type} (m : KindModule α) : List String := m.name :: m.accessors.map (·.function)

/-- The names that the accessors take from the document. -/
def AccessorSection.names (s : AccessorSection) : List String :=
  s.byKind.map (·.function) ++ s.byName.flatMap (·.names) ++ s.byRefdes.flatMap (·.names) ++
    s.byBus.flatMap (·.names) ++ s.rails.map (·.function)

/-- The names in a module of sensor ids that come from the document, its own included. -/
def SensorModule.names (m : SensorModule) : List String := m.name :: m.instances.flatMap (·.constants)

/-- The names that the sensor ids take from the document. -/
def SensorSection.names (s : SensorSection) : List String := s.groups.flatMap (·.names)

/-- The names of functions, modules and constants that an artifact takes from the document. -/
def Artifact.names (a : Artifact) : List String :=
  a.bus.toList.flatMap (·.names) ++ (a.accessors.toList.flatMap (·.names) ++ a.sensors.toList.flatMap (·.names))

/-! ## Where they come from -/

/-- The names that are added to others are identifiers of some items. -/
def NamedAfter (as : List Item) (names more : List String) : Prop :=
  ∀ name ∈ more, name ∈ names ∨ ∃ a ∈ as, a.identifier = name

theorem namedAfter_refl (as : List Item) (names : List String) : NamedAfter as names names := fun _ => Or.inl

theorem NamedAfter.append {as bs : List Item} {names more most : List String} (h : NamedAfter as names more)
    (h' : NamedAfter bs more most) : NamedAfter (as ++ bs) names most := by
  intro name hname
  rcases h' name hname with hmore | ⟨b, hb, hidentifier⟩
  · rcases h name hmore with hold | ⟨a, ha, hidentifier⟩
    · exact Or.inl hold
    · exact Or.inr ⟨a, List.mem_append_left _ ha, hidentifier⟩
  · exact Or.inr ⟨b, List.mem_append_right _ hb, hidentifier⟩

/-- If each step of a walk adds identifiers of the items of its entry only, the walk adds those of its entries. -/
theorem namedAfter_foldlM {α σ : Type} {step : Scope × σ → α → Except EmitError (Scope × σ)}
    (names : σ → List String) (itemsOf : α → List Item)
    (hstep : ∀ acc x next, step acc x = .ok next → NamedAfter (itemsOf x) (names acc.2) (names next.2))
    {xs : List α} {acc next : Scope × σ} (h : xs.foldlM step acc = .ok next) :
    NamedAfter (xs.flatMap itemsOf) (names acc.2) (names next.2) := by
  induction xs generalizing acc with
  | nil =>
    obtain rfl := Except.ok.inj h
    exact namedAfter_refl _ _
  | cons x xs ih =>
    rw [List.foldlM_cons, bind_eq_ok_iff] at h
    obtain ⟨mid, hmid, hrest⟩ := h
    rw [List.flatMap_cons]
    exact (hstep acc x mid hmid).append (ih hrest)

namespace BusSection

variable {t : Topology}

theorem namedAfter_addPort {controller : Controller} {acc : Scope × BusSection} {slot : Nat}
    {next : Scope × BusSection} (h : addPort t controller acc slot = .ok next) :
    NamedAfter (portItems t controller slot) acc.2.names next.2.names := by
  unfold addPort at h
  cases hp : t.ports[slot]? with
  | none => simp [hp] at h
  | some p =>
    simp [hp] at h
    obtain ⟨scope, -, rfl⟩ := h
    have hitems : portItems t controller slot = [.port controller p.key] := by simp [portItems, hp]
    intro name hname
    rw [names, List.map_append, List.mem_append] at hname
    rcases hname with hold | hnew
    · exact Or.inl hold
    · refine Or.inr ⟨.port controller p.key, by simp [hitems], ?_⟩
      exact (List.mem_singleton.mp hnew).symm

theorem namedAfter_addController {acc : Scope × BusSection} {c : BoardController} {next : Scope × BusSection}
    (h : addController t acc c = .ok next) :
    NamedAfter (c.ports.flatMap (portItems t c.controller)) acc.2.names next.2.names := by
  simp [addController] at h
  obtain ⟨-, scope, s, hports, rfl⟩ := h
  have hnames : NamedAfter (c.ports.flatMap (portItems t c.controller)) acc.2.names s.names := by
    refine namedAfter_foldlM names _ ?_ hports
    exact fun _ _ _ => namedAfter_addPort
  split <;> exact hnames

theorem exists_item_ofTopology {mode : ControllerMode} {standalone : Bool} {s : BusSection}
    (h : ofTopology t mode standalone = .ok s) {name : String} (hname : name ∈ s.names) :
    ∃ a ∈ Demand.items (demands t mode), a.identifier = name := by
  unfold ofTopology at h
  split at h
  · obtain rfl := Except.ok.inj h
    cases hname
  simp at h
  obtain ⟨-, scope, hwalk⟩ := h
  have hnames : NamedAfter ((t.controllersIn mode).flatMap fun c => c.ports.flatMap (portItems t c.controller)) []
      s.names := by
    refine namedAfter_foldlM names _ ?_ hwalk
    exact fun _ _ _ => namedAfter_addController
  rcases hnames name hname with hnone | ⟨a, ha, hidentifier⟩
  · cases hnone
  · obtain ⟨c, hc, hitem⟩ := List.mem_flatMap.mp ha
    have hdemand : Demand.named a ∈ controllerDemands t c := List.mem_cons_of_mem _ (List.mem_map_of_mem hitem)
    exact ⟨a, Demand.mem_items.mpr (List.mem_append_right _ (List.mem_flatMap.mpr ⟨c, hc, hdemand⟩)), hidentifier⟩

end BusSection

namespace AccessorSection

variable {t : Topology} {name : String}

/-- The names in a family are those of kinds and of the keys of their devices. -/
theorem exists_item_modulesOf {α : Type} (part : DeviceGroup → OrderedMap String α) (item : String → String → Item)
    (hitem : ∀ kind key, (item kind key).identifier = Identifier.snake key)
    (hmem : ∀ kind g, ∀ key ∈ (part g).keys, item kind key ∈ kindItems (kind, g))
    {groups : List (String × DeviceGroup)} (hname : name ∈ (modulesOf part groups).flatMap (·.names)) :
    ∃ a ∈ groups.flatMap kindItems, a.identifier = name := by
  rw [modulesOf_eq, List.flatMap_map] at hname
  obtain ⟨e, he, hname⟩ := List.mem_flatMap.mp hname
  have hgroup := (List.mem_filter.mp he).1
  rw [KindModule.names, map_function_accessorsOf, List.mem_cons] at hname
  rcases hname with rfl | hname
  · exact ⟨.kind e.1, List.mem_flatMap.mpr ⟨e, hgroup, List.mem_cons_self⟩, by rw [Item.identifier]⟩
  · obtain ⟨key, hkey, rfl⟩ := List.mem_map.mp hname
    exact ⟨item e.1 key, List.mem_flatMap.mpr ⟨e, hgroup, hmem e.1 e.2 key hkey⟩, hitem e.1 key⟩

theorem exists_item_listed (hname : name ∈ (listed t).names) : ∃ a ∈ accessorItems t, a.identifier = name := by
  have hgroups : (∃ a ∈ t.groups.entries.flatMap kindItems, a.identifier = name) →
      ∃ a ∈ accessorItems t, a.identifier = name := fun ⟨a, ha, hidentifier⟩ =>
    ⟨a, List.mem_append_left _ ha, hidentifier⟩
  simp only [names, listed, ofGroups, List.mem_append] at hname
  rcases hname with (((hkind | hname) | hrefdes) | hbus) | hrail
  · rw [List.map_map] at hkind
    obtain ⟨e, he, rfl⟩ := List.mem_map.mp hkind
    refine hgroups ⟨.kind e.1, List.mem_flatMap.mpr ⟨e, he, List.mem_cons_self⟩, ?_⟩
    rw [Item.identifier, Function.comp_apply]
  · refine hgroups (exists_item_modulesOf (·.byName) .name (fun _ _ => rfl) (fun kind g n hn => ?_) hname)
    simp [kindItems, hn]
  · refine hgroups (exists_item_modulesOf (·.byRefdes) .refdes (fun _ _ => rfl) (fun kind g r hr => ?_) hrefdes)
    simp [kindItems, hr]
  · refine hgroups (exists_item_modulesOf (·.byBus) .bus (fun _ _ => rfl) (fun kind g b hb => ?_) hbus)
    simp [kindItems, hb]
  · rw [List.map_map] at hrail
    obtain ⟨e, he, rfl⟩ := List.mem_map.mp hrail
    refine ⟨.rail e.1, List.mem_append_right _ (List.mem_map_of_mem (List.mem_map_of_mem he)), ?_⟩
    rw [Item.identifier, Function.comp_apply]

theorem exists_item_ofTopology {standalone : Bool} {s : AccessorSection} (h : ofTopology t standalone = .ok s)
    (hname : name ∈ s.names) : ∃ a ∈ accessorItems t, a.identifier = name := by
  cases standalone with
  | true =>
    obtain rfl := Except.ok.inj h
    cases hname
  | false =>
    obtain rfl := eq_listed_of_ofTopology h
    exact exists_item_listed hname

end AccessorSection

namespace SensorSection

variable {t : Topology} {name : String}

theorem exists_item_listed (hname : name ∈ (listed t).names) : ∃ a ∈ sensorItems t, a.identifier = name := by
  simp only [names, listed, modulesOf, List.flatMap_map] at hname
  obtain ⟨e, he, hname⟩ := List.mem_flatMap.mp hname
  obtain ⟨hgroup, hsensing⟩ := List.mem_filter.mp he
  rw [Bool.not_eq_true', List.isEmpty_eq_false_iff_exists_mem] at hsensing
  rw [SensorModule.names, List.mem_cons] at hname
  rcases hname with rfl | hname
  · refine ⟨.sensors e.1, List.mem_flatMap.mpr ⟨e, hgroup, ?_⟩, by rw [Item.identifier, moduleOf]⟩
    exact mem_kindItems_iff.mpr (Or.inl ⟨rfl, hsensing⟩)
  · simp only [moduleOf, List.flatMap_map] at hname
    obtain ⟨row, hrow, hconstant⟩ := List.mem_flatMap.mp hname
    obtain ⟨n, hn, rfl⟩ := List.mem_map.mp hconstant
    refine ⟨.sensorName e.1 n, List.mem_flatMap.mpr ⟨e, hgroup, ?_⟩, by rw [Item.identifier]⟩
    exact mem_kindItems_iff.mpr (Or.inr ⟨row, hrow, instanceItems_eq_map_namesOf e.1 row ▸ List.mem_map_of_mem hn⟩)

theorem exists_item_ofTopology {standalone : Bool} {s : SensorSection} (h : ofTopology t standalone = .ok s)
    (hname : name ∈ s.names) : ∃ a ∈ sensorItems t, a.identifier = name := by
  cases standalone with
  | true =>
    obtain rfl := Except.ok.inj h
    cases hname
  | false =>
    obtain rfl := eq_listed_of_ofTopology h
    exact exists_item_listed hname

end SensorSection

namespace Artifact

variable {d : Document} {t : Topology} {dispositions : List Disposition} {o : EmitOptions} {a : Artifact}

theorem exists_item_busPart {standalone : Bool} {s : BusSection} (h : busPart t dispositions standalone = .ok (some s))
    {name : String} (hname : name ∈ s.names) :
    ∃ item ∈ Demand.items (if .initiator ∈ dispositions then BusSection.demands t .initiator
      else if .target ∈ dispositions then BusSection.demands t .target else []), item.identifier = name := by
  simp only [busPart, List.contains_eq_mem, decide_eq_true_eq] at h
  split at h <;> rename_i hinitiator
  · rw [if_pos hinitiator]
    exact BusSection.exists_item_ofTopology (part_eq_some_iff.mp h).2 hname
  · obtain ⟨htarget, hmade⟩ := part_eq_some_iff.mp h
    rw [if_neg hinitiator, if_pos (of_decide_eq_true htarget)]
    exact BusSection.exists_item_ofTopology hmade hname

/-- Each name that an artifact takes from its document is the identifier of an item that the artifact names. -/
theorem exists_item_of_mem_names (hresolve : d.resolve = .ok t) (h : ofTopology t dispositions o = .ok a)
    {name : String} (hname : name ∈ a.names) : ∃ item : Item, item.NamedIn d dispositions ∧ item.identifier = name := by
  obtain ⟨-, -, -, -, -, hbus, haccessors, hsensors, -⟩ := ofTopology_eq_ok_iff.mp h
  simp only [← Document.mem_items_iff hresolve, Topology.demands, Demand.items_append, List.mem_append]
  simp only [names, List.mem_append, List.mem_flatMap, Option.mem_toList] at hname
  rcases hname with ⟨s, hs, hname⟩ | ⟨s, hs, hname⟩ | ⟨s, hs, hname⟩
  · rw [hs] at hbus
    obtain ⟨item, hitem, hidentifier⟩ := exists_item_busPart hbus hname
    exact ⟨item, Or.inl (Or.inl hitem), hidentifier⟩
  · rw [hs, part_eq_some_iff, decide_eq_true_eq] at haccessors
    obtain ⟨hwanted, hmade⟩ := haccessors
    obtain ⟨item, hitem, hidentifier⟩ := AccessorSection.exists_item_ofTopology hmade hname
    exact ⟨item, Or.inl (Or.inr (by rwa [if_pos hwanted, Demand.items_named])), hidentifier⟩
  · rw [hs, part_eq_some_iff, decide_eq_true_eq] at hsensors
    obtain ⟨hwanted, hmade⟩ := hsensors
    obtain ⟨item, hitem, hidentifier⟩ := SensorSection.exists_item_ofTopology hmade hname
    exact ⟨item, Or.inr (by rwa [if_pos hwanted, Demand.items_named]), hidentifier⟩

end Artifact

/-! ## What they can be used for -/

namespace Item

open Identifier

/-- There is a letter or a digit in what an item is named after. The name of a port has those of its controller. -/
def Worded : Item → Prop
  | port _ _ => True
  | kind k | sensors k => Identifier.Worded k
  | name _ n | sensorName _ n => Identifier.Worded n
  | refdes _ r => Identifier.Worded r
  | bus _ b => Identifier.Worded b
  | rail r => Identifier.Worded r

theorem toList_identifier_port (controller : Controller) (key : String) : (port controller key).identifier.toList =
    'i' :: '2' :: 'c' :: (Nat.toDigits 10 controller.number.toNat ++ '_' :: (snake key).toList) := by
  have htext : (port controller key).identifier =
      "i2c" ++ Nat.repr controller.number.toNat ++ "_" ++ snake key := rfl
  simp only [htext, String.toList_append, Nat.toList_repr, List.append_assoc]
  rfl

theorem isName_port (controller : Controller) (key : String) : IsName (port controller key).identifier := by
  have hlist := toList_identifier_port controller key
  have hkeyword : ∀ name ∈ keywords, name.toList[1]? ≠ some '2' := by decide
  refine ⟨⟨fun c hc => ?_, by simp [hlist], fun c hc => ?_, fun hmem => ?_⟩, fun heq => ?_⟩
  · rw [hlist] at hc
    simp only [List.mem_cons, List.mem_append] at hc
    rcases hc with rfl | rfl | rfl | hdigit | rfl | hkey
    · exact Or.inl rfl
    · exact Or.inl rfl
    · exact Or.inl rfl
    · have hc := Nat.isDigit_of_mem_toDigits (by decide) (by decide) hdigit
      exact Or.inl (by simp [Char.isAlphanum, hc])
    · exact Or.inr rfl
    · exact (spelled_snake key).chars c hkey
  · rw [hlist, List.head?_cons, Option.mem_some_iff] at hc
    subst hc
    rfl
  · exact hkeyword _ hmem (by rw [hlist]; rfl)
  · rw [heq] at hlist
    simp at hlist

/-- Whatever an item is named after, its identifier is spelled well. -/
theorem spelled_identifier (a : Item) : Spelled a.identifier := by
  cases a with
  | port controller key => exact (isName_port controller key).toSpelled
  | kind k | sensors k => exact spelled_snake k
  | name _ n => exact spelled_snake n
  | refdes _ r => exact spelled_snake r
  | bus _ b => exact spelled_snake b
  | rail r => exact spelled_snake r
  | sensorName _ n => exact spelled_upper n

theorem isName_identifier_iff (a : Item) : IsName a.identifier ↔ a.Worded := by
  cases a with
  | port controller key => exact iff_of_true (isName_port controller key) trivial
  | kind _ | sensors _ | name _ _ | refdes _ _ | bus _ _ | rail _ => exact isName_snake_iff
  | sensorName _ _ => exact isName_upper_iff

end Item

namespace Artifact

open Identifier

/-- **Identifiers as names.** The identifiers of any text are spelled as the generated language has it, and something
can be called by them exactly if the text has a letter or a digit. So each name that an artifact takes from its
document is spelled well and belongs to an item of it, and the item can be called by it exactly if what it is named
after has a letter or a digit. -/
theorem names_usable_unless_wordless (text : String) :
    (Spelled (snake text) ∧ Spelled (upper text) ∧ (IsName (snake text) ↔ Worded text) ∧
      (IsName (upper text) ↔ Worded text)) ∧
    ∀ {d : Document} {t : Topology} {dispositions : List Disposition} {o : EmitOptions} {a : Artifact},
      d.resolve = .ok t → ofTopology t dispositions o = .ok a → ∀ name ∈ a.names, ∃ item : Item,
        item.NamedIn d dispositions ∧ item.identifier = name ∧ Spelled name ∧ (IsName name ↔ item.Worded) := by
  refine ⟨⟨spelled_snake text, spelled_upper text, isName_snake_iff, isName_upper_iff⟩, ?_⟩
  intro d t dispositions o a hresolve ha name hname
  obtain ⟨item, hitem, rfl⟩ := exists_item_of_mem_names hresolve ha hname
  exact ⟨item, hitem, rfl, item.spelled_identifier, item.isName_identifier_iff⟩

end Artifact

namespace OddNames

/-- Devices that are named after a supply voltage, a reserved word and a dash. -/
def document : Document where
  controllers := [{ controller := 2, ports := .ofList [("A", { name := some "main" })] }]
  devices := [
    { device := "max31790", bus := some "main", address := 0x20, names := ["3v3", "Type"] },
    { device := "max31790", bus := some "main", address := 0x21, names := ["-"] }]

def board : Topology := document.resolve.toOption.getD {}

/-- The functions that give handles on the devices. -/
def artifact : Artifact where
  moduleName := "i2c_config"
  corePath := "i2c_core"
  standalone := false
  devices := board.devices.map DeviceRow.ofDevice
  bus := none
  accessors := some
    { byKind := [⟨"max31790", [0, 1]⟩]
      byName := [⟨"max31790", [⟨"_3v3", 0⟩, ⟨"type_", 0⟩, ⟨"_", 1⟩]⟩]
      byBus := [⟨"max31790", [⟨"main", [0, 1]⟩]⟩] }
  sensors := none
  validation := none

theorem ofTopology_board : Artifact.ofTopology board [.devices] {} = .ok artifact := rfl

/-- Each name of the artifact belongs to an item of the document, and an item named after a reserved word can be called
by its identifier. -/
theorem names_usable_up_to_dash : (Identifier.IsName (Identifier.snake "Type") ↔ Identifier.Worded "Type") ∧
    document.resolve = .ok board ∧ Artifact.ofTopology board [.devices] {} = .ok artifact ∧
    ∀ name ∈ artifact.names, ∃ item : Item, item.NamedIn document [.devices] ∧ item.identifier = name ∧
      Identifier.Spelled name ∧ (Identifier.IsName name ↔ item.Worded) :=
  have h := Artifact.names_usable_unless_wordless "Type"
  ⟨h.1.2.2.1, rfl, ofTopology_board, h.2 rfl ofTopology_board⟩

/-- Nothing can be called by the identifiers of a dash, and yet a function of the artifact is. -/
theorem underscore_mem_names : Identifier.snake "-" = "_" ∧ Identifier.upper "-" = "_" ∧ ¬Identifier.IsName "_" ∧
    document.resolve = .ok board ∧ Artifact.ofTopology board [.devices] {} = .ok artifact ∧ "_" ∈ artifact.names :=
  ⟨by decide, by decide, fun h => h.ne_underscore rfl, rfl, ofTopology_board, by decide⟩

end OddNames

end I2cTopology
