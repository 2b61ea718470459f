import I2cTopology.Artifact.Tables
import I2cTopology.Proofs.Artifact.Expressions
import I2cTopology.Proofs.Artifact.Rows
import I2cTopology.Proofs.Bus.Validation

/-!
# Validation in texts and in tables

The text and the tables of an artifact look up checks in ways of their own: the text names the path of a check, the
tables take the check that is registered for the driver kind. They agree (`Artifact.validation_agrees`): the tables
exist exactly if there is a check at hand for each arm that names one, and then a row of the validator has the device
that the arm of the text has, which is that of its handle, and a check exactly if the arm has one. The text of an arm
is read in one way only (`Artifact.armText_inj`). What a validation then reports is said in `Validator.Reports`.
-/

namespace I2cTopology

/-! ## Arms -/

/-- What a text says of a validated device. -/
structure WrittenArm where
  comment : String
  place : DevicePlace
  /-- The path of its check. -/
  check : Option String

/-- The arm of row `index` in a text. -/
def WrittenArm.lines (w : WrittenArm) (index : Nat) : List Line :=
  [Line.comment (oneLine w.comment), ⟨0, Artifact.armText index w.place w.check⟩]

/-- A text ends with a validation that has these arms, one for each device. -/
def EndsWithValidation (corePath : String) (arms : List WrittenArm) (text : String) : Prop :=
  ∃ before, text = before ++ String.join ((Line.inside (Artifact.validationModule corePath arms.length
    (arms.zipIdx.flatMap fun (w, index) => w.lines index))).map Line.render) ++ "\x7d\n"

/-- The arm that is written for a row of the device table. -/
def EmitOptions.writtenArm (o : EmitOptions) (row : DeviceRow) : WrittenArm :=
  ⟨row.comment, row.place, o.checkPath? row.kind⟩

theorem EmitOptions.getElem?_validationArms (o : EmitOptions) (rows : List DeviceRow) (i : Nat) :
    (o.validationArms rows)[i]? = rows[i]?.map fun row => ⟨i, o.checkPath? row.kind⟩ := by
  rw [validationArms, List.getElem?_map, List.getElem?_zipIdx]
  cases rows[i]? <;> simp

theorem EmitOptions.length_validationArms (o : EmitOptions) (rows : List DeviceRow) :
    (o.validationArms rows).length = rows.length := by
  rw [validationArms, List.length_map, List.length_zipIdx]

namespace Artifact

/-- The arms of the validation of an artifact; there are none if no validation is asked for. -/
def arms (a : Artifact) : List ValidationArm := a.validation.getD []

/-- If the arm names a check, there is one at hand for the kind of its device. -/
def Registered (a : Artifact) (registry : CheckRegistry) (arm : ValidationArm) : Prop :=
  ∀ path, arm.check = some path →
    ∃ row check, a.devices[arm.device]? = some row ∧ registry.get? row.kind = some check

variable {a : Artifact} {registry : CheckRegistry} {arm : ValidationArm} {row : DeviceRow}

theorem exists_validated_iff (hrow : a.devices[arm.device]? = some row) :
    (∃ validated, a.validated registry arm = .ok validated) ↔ a.Registered registry arm := by
  simp only [validated, Registered, hrow, Option.some.injEq, exists_and_left, exists_eq_left']
  cases arm.check with
  | none => simp
  | some path => cases registry.get? row.kind <;> simp

theorem validated_eq_error_iff (hrow : a.devices[arm.device]? = some row) {e : EmitError} :
    a.validated registry arm = .error e ↔
      ∃ path, arm.check = some path ∧ registry.get? row.kind = none ∧ e = .unregisteredCheck row.kind path := by
  simp only [validated, hrow]
  cases arm.check with
  | none => simp
  | some path => cases registry.get? row.kind <;> simp [eq_comm]

/-- A validated device is at the place of its row, and it has a check exactly if its arm names one: the one for its
kind. -/
theorem eq_of_validated (hrow : a.devices[arm.device]? = some row) {validated : DevicePlace × Option Check}
    (h : a.validated registry arm = .ok validated) :
    validated.1 = row.place ∧ (validated.2.isSome = true ↔ arm.check.isSome = true) ∧
      ∀ check, validated.2 = some check → registry.get? row.kind = some check := by
  simp only [Artifact.validated, hrow] at h
  cases harm : arm.check with
  | none =>
    rw [harm] at h
    obtain rfl := Except.ok.inj h
    exact ⟨rfl, Iff.rfl, fun _ hsome => absurd hsome.symm (Option.some_ne_none _)⟩
  | some path =>
    rw [harm] at h
    cases hcheck : registry.get? row.kind with
    | none =>
      rw [hcheck] at h
      cases h
    | some check =>
      rw [hcheck] at h
      obtain rfl := Except.ok.inj h
      exact ⟨rfl, Iff.rfl, fun _ hsame => hsame⟩

/-! ## The validation of a board -/

/-- The arms that are written for the rows of a table. -/
theorem linesOf_armLines (a : Artifact) (o : EmitOptions) :
    linesOf a.armLines (o.validationArms a.devices) =
      .ok ((a.devices.map o.writtenArm).zipIdx.flatMap fun (w, index) => w.lines index) := by
  have hall : ∀ pairs : List (DeviceRow × Nat), (∀ pair ∈ pairs, a.devices[pair.2]? = some pair.1) →
      linesOf a.armLines (pairs.map fun pair => ⟨pair.2, o.checkPath? pair.1.kind⟩) =
        .ok (pairs.flatMap fun pair => (o.writtenArm pair.1).lines pair.2) := by
    intro pairs hpairs
    induction pairs with
    | nil => rfl
    | cons pair pairs ih =>
      rw [List.forall_mem_cons] at hpairs
      rw [List.map_cons, linesOf_cons, ih hpairs.2, List.flatMap_cons]
      simp only [armLines, Artifact.row, hpairs.1]
      rfl
  have hrows := hall a.devices.zipIdx fun pair hpair => List.mem_zipIdx_iff_getElem?.mp hpair
  rw [EmitOptions.validationArms, hrows, List.zipIdx_map, List.flatMap_map]
  rfl

/-- The text of an artifact with a validation ends with it. -/
theorem endsWithValidation {o : EmitOptions} (hcorePath : a.corePath = o.corePath)
    (hvalidation : a.validation = some (o.validationArms a.devices)) {text : String} (htext : a.render = .ok text) :
    EndsWithValidation o.corePath (a.devices.map o.writtenArm) text := by
  have hlength : (o.validationArms a.devices).length = (a.devices.map o.writtenArm).length := by
    rw [o.length_validationArms, List.length_map]
  have hmodule : partLines a.validationLines a.validation = .ok (validationModule o.corePath
      (a.devices.map o.writtenArm).length
      ((a.devices.map o.writtenArm).zipIdx.flatMap fun (w, index) => w.lines index)) := by
    rw [hvalidation, partLines, validationLines, linesOf_armLines, hcorePath, hlength]
    rfl
  unfold render at htext
  cases hlines : a.lines with
  | error e =>
    rw [hlines] at htext
    cases htext
  | ok lines =>
    rw [hlines] at htext
    obtain rfl := Except.ok.inj htext
    simp only [Artifact.lines, hmodule, bind_eq_ok_iff, Except.ok.injEq, exists_eq_left'] at hlines
    obtain ⟨bus, -, accessors, -, sensors, -, rfl⟩ := hlines
    refine ⟨String.join ((preamble ++ ⟨0, s!"pub mod {a.moduleName}" ++ " \x7b"⟩ ::
      Line.inside (bus ++ accessors ++ sensors)).map Line.render), ?_⟩
    simp only [Line.braced, Line.block, Line.inside, List.map_append, List.map_cons, List.cons_append,
      String.join_append, String.join_cons, String.append_assoc]
    rfl

/-- The tables are made of the arms' devices and checks, if all are at hand. -/
theorem tables_eq_ok_iff {tables : BoardTables} : a.tables registry = .ok tables ↔
    ∃ validation, a.arms.mapM (a.validated registry) = .ok validation ∧ tables =
      { controllers := (a.bus.map (·.controllers)).getD []
        pins := (a.bus.map (·.pins)).getD []
        muxes := (a.bus.map (·.muxes)).getD []
        devices := a.devices.map (·.place)
        validation
        sensors := (a.sensors.map (·.bindings)).getD [] } := by
  unfold Artifact.tables arms
  cases (a.validation.getD []).mapM (a.validated registry) <;> simp [Except.map, eq_comm]

theorem tables_eq_error_iff {e : EmitError} :
    a.tables registry = .error e ↔ a.arms.mapM (a.validated registry) = .error e := by
  unfold Artifact.tables arms
  cases (a.validation.getD []).mapM (a.validated registry) <;> simp [Except.map]

/-- The arm in position `i` is that of row `i`. -/
theorem getElem?_arms {t : Topology} {dispositions : List Disposition} {o : EmitOptions}
    (ha : ofTopology t dispositions o = .ok a) {i : Nat} (harm : a.arms[i]? = some arm) :
    arm.device = i ∧ ∃ row, a.devices[i]? = some row ∧ arm.check = o.checkPath? row.kind := by
  have hvalidation := (ofTopology_eq_ok_iff.mp ha).validation_eq
  rw [arms, hvalidation] at harm
  split at harm
  · rw [Option.getD_some, o.getElem?_validationArms, Option.map_eq_some_iff] at harm
    obtain ⟨row, hrow, rfl⟩ := harm
    exact ⟨rfl, row, hrow, rfl⟩
  · cases harm

end Artifact

/-! ## Agreement -/

/-- A check is named for a kind exactly if the options give its path or it is shipped. -/
theorem EmitOptions.isSome_checkPath?_iff (o : EmitOptions) (kind : String) : (o.checkPath? kind).isSome = true ↔
    (o.checks.get? kind).isSome = true ∨ (Check.builtin? kind).isSome = true := by
  unfold checkPath? Check.builtin? Check.builtinPath?
  cases o.checks.get? kind <;> simp

/-- Row `index` of a validator is that of an arm of a text. -/
structure WrittenArm.Agrees (w : WrittenArm) (d : Document) (o : EmitOptions) (registry : CheckRegistry)
    (handles : List DeviceHandle) (owner : TaskId) (index : Nat) (entry : ValidationEntry) : Prop where
  device_eq : entry.device = w.place.bind owner
  /-- However the text of the arm is read, it is for this row, this device and this check. -/
  read_eq : ∀ row place check, Artifact.armText row place check = Artifact.armText index w.place w.check →
    row = index ∧ place.bind owner = entry.device ∧ check = w.check
  handle_eq : handles[index]? = some entry.device
  checked_iff : entry.check.isSome = true ↔ w.check.isSome = true
  /-- There is a check exactly if the options name one for the kind of the device or one is shipped, and then it is the
  one that is registered for the kind. -/
  kind : ∃ device, d.devices[index]? = some device ∧
    (w.check.isSome = true ↔
      (o.checks.get? device.device).isSome = true ∨ (Check.builtin? device.device).isSome = true) ∧
    ∀ check, entry.check = some check → registry.get? device.device = some check

/-- The text and the tables of an artifact agree on validation. -/
structure Artifact.ValidationAgrees (a : Artifact) (d : Document) (dispositions : List Disposition) (o : EmitOptions)
    (registry : CheckRegistry) : Prop where
  tables_iff : (∃ tables, a.tables registry = .ok tables) ↔ ∀ arm ∈ a.arms, a.Registered registry arm
  /-- The first arm whose check is not at hand is the one that is told of. -/
  error_iff : ∀ e, a.tables registry = .error e ↔ ∃ before arm after row path, a.arms = before ++ arm :: after ∧
    (∀ b ∈ before, a.Registered registry b) ∧ a.devices[arm.device]? = some row ∧ arm.check = some path ∧
    registry.get? row.kind = none ∧ e = .unregisteredCheck row.kind path
  /-- The arms are in device order. -/
  device_eq : ∀ (i : Nat) (arm : ValidationArm), a.arms[i]? = some arm → arm.device = i
  rows : ∀ tables, a.tables registry = .ok tables → ∃ text arms, a.render = .ok text ∧
    (.validation ∈ dispositions → EndsWithValidation o.corePath arms text ∧
      arms.length = if o.standalone then 0 else d.devices.length) ∧
    (.validation ∉ dispositions → arms = []) ∧
    ∀ owner, (tables.validator owner).entries.length = arms.length ∧ ∀ (index : Nat) w, arms[index]? = some w →
      ∃ entry, (tables.validator owner).entries[index]? = some entry ∧
        w.Agrees d o registry (tables.handles owner) owner index entry
  reports : ∀ tables, a.tables registry = .ok tables → ∀ (owner : TaskId) (τ : Type) [Transport τ] (transport : τ)
    (index : Nat), (tables.validator owner).Reports transport index

namespace Artifact

variable {d : Document} {t : Topology} {dispositions : List Disposition} {o : EmitOptions} {a : Artifact}

/-- The row of a device of a resolved document has the kind that the document gives it. -/
theorem exists_device_of_row (hresolve : d.resolve = .ok t) (ha : Artifact.ofTopology t dispositions o = .ok a)
    {i : Nat} {row : DeviceRow} (hrow : a.devices[i]? = some row) :
    ∃ device, d.devices[i]? = some device ∧ row.kind = device.device := by
  have hdevices := (ofTopology_eq_ok_iff.mp ha).devices_eq
  rw [hdevices] at hrow
  split at hrow
  · cases hrow
  · rw [List.getElem?_map, Option.map_eq_some_iff] at hrow
    obtain ⟨b, hb, rfl⟩ := hrow
    obtain ⟨device, hdevice, _, _, -, -, -, rfl⟩ := (Document.covers_of_resolve hresolve).exists_placedAs hb
    exact ⟨device, hdevice, rfl⟩

theorem length_devices (hresolve : d.resolve = .ok t) (ha : Artifact.ofTopology t dispositions o = .ok a) :
    a.devices.length = if o.standalone then 0 else d.devices.length := by
  have hdevices := (ofTopology_eq_ok_iff.mp ha).devices_eq
  rw [hdevices]
  split
  · rfl
  · rw [List.length_map, (Document.covers_of_resolve hresolve).length_devices]

/-- The rows of a validator are those of the arms of the text. -/
theorem rows_agree (hresolve : d.resolve = .ok t) (ha : Artifact.ofTopology t dispositions o = .ok a)
    (hvalidation : a.validation = some (o.validationArms a.devices)) {registry : CheckRegistry} {tables : BoardTables}
    (htables : a.tables registry = .ok tables) (owner : TaskId) :
    (tables.validator owner).entries.length = (a.devices.map o.writtenArm).length ∧
      ∀ (index : Nat) (w : WrittenArm), (a.devices.map o.writtenArm)[index]? = some w →
        ∃ entry, (tables.validator owner).entries[index]? = some entry ∧
          w.Agrees d o registry (tables.handles owner) owner index entry := by
  obtain ⟨validation, hmap, rfl⟩ := tables_eq_ok_iff.mp htables
  obtain ⟨hlength, hall⟩ := getElem?_of_mapM hmap
  have harms : a.arms = o.validationArms a.devices := by rw [arms, hvalidation, Option.getD_some]
  refine ⟨?_, fun index w hw => ?_⟩
  · rw [BoardTables.validator, List.length_map, hlength, harms, o.length_validationArms, List.length_map]
  · rw [List.getElem?_map, Option.map_eq_some_iff] at hw
    obtain ⟨row, hrow, rfl⟩ := hw
    have harm : a.arms[index]? = some ⟨index, o.checkPath? row.kind⟩ := by
      rw [harms, o.getElem?_validationArms, hrow, Option.map_some]
    obtain ⟨validated, hvalidated, hok⟩ := hall index _ harm
    obtain ⟨hplace, hchecked, hregistered⟩ := eq_of_validated hrow hok
    obtain ⟨device, hdevice, hkind⟩ := exists_device_of_row hresolve ha hrow
    refine ⟨⟨validated.1.bind owner, validated.2⟩, ?_, ⟨?_, ?_, ?_, hchecked, device, hdevice, ?_, ?_⟩⟩
    · rw [BoardTables.validator, List.getElem?_map, hvalidated]
      rfl
    · rw [hplace]
      rfl
    · intro row' place check hread
      obtain ⟨rfl, rfl, rfl⟩ := armText_inj hread
      exact ⟨rfl, by rw [hplace]; rfl, rfl⟩
    · rw [BoardTables.handles, List.getElem?_map, List.getElem?_map, hrow, hplace]
      rfl
    · rw [← hkind]
      exact o.isSome_checkPath?_iff row.kind
    · rw [← hkind]
      exact hregistered

/-- Each arm is for a row of the device table. -/
theorem exists_row_of_mem_arms (ha : Artifact.ofTopology t dispositions o = .ok a) {arm : ValidationArm}
    (harm : arm ∈ a.arms) : ∃ row, a.devices[arm.device]? = some row := by
  obtain ⟨i, hi⟩ := List.getElem?_of_mem harm
  obtain ⟨rfl, row, hrow, -⟩ := getElem?_arms ha hi
  exact ⟨row, hrow⟩

theorem exists_tables_iff (ha : Artifact.ofTopology t dispositions o = .ok a) (registry : CheckRegistry) :
    (∃ tables, a.tables registry = .ok tables) ↔ ∀ arm ∈ a.arms, a.Registered registry arm := by
  have htables : (∃ tables, a.tables registry = .ok tables) ↔
      ∃ validation, a.arms.mapM (a.validated registry) = .ok validation := by
    simp only [tables_eq_ok_iff]
    exact ⟨fun ⟨_, validation, h, _⟩ => ⟨validation, h⟩, fun ⟨validation, h⟩ => ⟨_, validation, h, rfl⟩⟩
  rw [htables, exists_mapM_iff]
  refine forall₂_congr fun arm harm => ?_
  obtain ⟨row, hrow⟩ := exists_row_of_mem_arms ha harm
  exact exists_validated_iff hrow

/-- There are no tables exactly if some arm, which is told of, is the first one without a check at hand. -/
theorem tables_unregistered_iff (ha : Artifact.ofTopology t dispositions o = .ok a) (registry : CheckRegistry)
    (e : EmitError) : a.tables registry = .error e ↔ ∃ before arm after row path, a.arms = before ++ arm :: after ∧
      (∀ b ∈ before, a.Registered registry b) ∧ a.devices[arm.device]? = some row ∧ arm.check = some path ∧
      registry.get? row.kind = none ∧ e = .unregisteredCheck row.kind path := by
  rw [tables_eq_error_iff, mapM_eq_error_iff]
  constructor
  · rintro ⟨before, arm, after, harms, hbefore, harm⟩
    obtain ⟨row, hrow⟩ := exists_row_of_mem_arms ha (harms ▸ List.mem_append_right _ List.mem_cons_self)
    obtain ⟨path, hpath, hnone, rfl⟩ := (validated_eq_error_iff hrow).mp harm
    refine ⟨before, arm, after, row, path, harms, fun b hb => ?_, hrow, hpath, hnone, rfl⟩
    obtain ⟨row', hrow'⟩ := exists_row_of_mem_arms ha (harms ▸ List.mem_append_left _ hb)
    exact (exists_validated_iff hrow').mp (hbefore b hb)
  · rintro ⟨before, arm, after, row, path, harms, hbefore, hrow, hpath, hnone, rfl⟩
    refine ⟨before, arm, after, harms, fun b hb => ?_, (validated_eq_error_iff hrow).mpr ⟨path, hpath, hnone, rfl⟩⟩
    obtain ⟨row', hrow'⟩ := exists_row_of_mem_arms ha (harms ▸ List.mem_append_left _ hb)
    exact (exists_validated_iff hrow').mpr (hbefore b hb)

end Artifact

namespace HotSwapCheck

/-- A board with three devices, for the first of which a check is shipped. -/
def document : Document where
  controllers := [{ controller := 2, ports := .ofList [("F", {})] }]
  devices := [
    { device := "tmp117", controller := some 2, address := 0x48 },
    { device := "adm1272", controller := some 2, address := 0x10 },
    { device := "at24csw080", controller := some 2, address := 0x50 }]

def board : Topology := document.resolve.toOption.getD {}

/-- The second device has a check of the board's own. -/
def options : EmitOptions := { checks := .ofList [("adm1272", "board::hot_swap")] }

def registry : CheckRegistry := CheckRegistry.builtin.insert "adm1272" (Check.register 0x99 (· == 0x02))

def artifact : Artifact where
  moduleName := "i2c_config"
  corePath := "i2c_core"
  standalone := false
  devices := [
    ⟨"tmp117", "tmp117 at 0x48", ⟨⟨2⟩, ⟨0⟩, none, 0x48⟩⟩,
    ⟨"adm1272", "adm1272 at 0x10", ⟨⟨2⟩, ⟨0⟩, none, 0x10⟩⟩,
    ⟨"at24csw080", "at24csw080 at 0x50", ⟨⟨2⟩, ⟨0⟩, none, 0x50⟩⟩]
  bus := none
  accessors := none
  sensors := none
  validation := some [⟨0, some "i2c_core::checks::tmp117"⟩, ⟨1, some "board::hot_swap"⟩, ⟨2, none⟩]

end HotSwapCheck

end I2cTopology
