import I2cTopology.Bus.Validation

/-!
# What a validation reports

A dialogue is candid if it ends with the first failure that it meets, and with a value if it meets none
(`Dialogue.Candid`). So the run of a candid dialogue fails exactly with the first failure that the transport reports
(`Dialogue.Candid.run_eq_error_iff`). The plain read is candid, and so is each of the checks that are shipped
(`Check.Shipped.candid`).

`Validator.reports` says what the validation of a row comes to over any transport: what it tells of the index, which
results need a check and which need that there is none, and that no failure of a candid check is lost, so none of a
shipped one.
-/

namespace I2cTopology

/-! ## Candid dialogues -/

namespace Dialogue

variable {α β τ : Type}

/-- The dialogue ends with the first failure that it meets, and with a value if it meets none. -/
def Candid : Dialogue (Except AccessError α) → Prop
  | .done value => ∃ a, value = .ok a
  | .send _ _ next => ∀ reply : Reply AccessError, match reply.result with
    | .error e => next reply = .done (.error e)
    | .ok _ => (next reply).Candid

/-- The first failure that a dialogue meets over a transport. -/
def failure? [Transport τ] : Dialogue α → τ → Option AccessError
  | .done _, _ => none
  | .send request buffer next, transport =>
    let sent := Transport.send transport request buffer
    match sent.reply.result with
    | .error e => some e
    | .ok _ => (next sent.reply).failure? sent.transport

namespace Candid

variable {d : Dialogue (Except AccessError α)}

theorem map (h : d.Candid) (f : α → β) : (d.map fun result => result.map f).Candid := by
  induction d with
  | done value =>
    obtain ⟨a, rfl⟩ := h
    exact ⟨f a, rfl⟩
  | send request buffer next ih =>
    intro reply
    have hreply := h reply
    cases hresult : reply.result with
    | error e =>
      simp only [hresult] at hreply ⊢
      rw [hreply]
      rfl
    | ok n =>
      simp only [hresult] at hreply ⊢
      exact ih reply hreply

/-- A candid dialogue fails exactly with the first failure that it meets. -/
theorem run_eq_error_iff [Transport τ] (h : d.Candid) (transport : τ) (e : AccessError) :
    (d.run transport).value = .error e ↔ d.failure? transport = some e := by
  induction d generalizing transport with
  | done value =>
    obtain ⟨a, rfl⟩ := h
    exact ⟨nofun, nofun⟩
  | send request buffer next ih =>
    have hreply := h (Transport.send transport request buffer).reply
    simp only [run, failure?]
    cases hresult : (Transport.send transport request buffer).reply.result with
    | error e' =>
      simp only [hresult] at hreply ⊢
      rw [hreply, run, Except.error.injEq, Option.some.injEq]
    | ok n =>
      simp only [hresult] at hreply ⊢
      exact ih _ hreply _

end Candid

/-- One request whose result is that of its reply. -/
theorem candid_transaction (request : Request) (buffer : Buffer) (f : Reply AccessError → Nat → α) :
    ((send request buffer done).map fun reply => reply.result.map (f reply)).Candid := by
  intro reply
  show match reply.result with
    | .error e => Dialogue.done (reply.result.map (f reply)) = .done (.error e)
    | .ok _ => (Dialogue.done (reply.result.map (f reply))).Candid
  cases reply.result with
  | error e => rfl
  | ok n => exact ⟨f reply n, rfl⟩

end Dialogue

/-! ## Candid checks -/

theorem DeviceHandle.candid_rawProbe (h : DeviceHandle) : h.rawProbe.Candid := Dialogue.candid_transaction _ _ _

namespace Check

/-- A check of which no failure is lost. -/
def Candid (check : Check) : Prop := ∀ device, (check device).Candid

/-- The checks that are shipped: the registered ones, and the one of FRU memories, which is for no driver kind. -/
def Shipped (check : Check) : Prop :=
  check = fruHeader ∨ ∃ kind, CheckRegistry.builtin.get? kind = some check

theorem candid_register (number : UInt8) (expected : UInt8 → Bool) : (register number expected).Candid :=
  fun _ => (Dialogue.candid_transaction _ _ _).map expected

theorem candid_tmp117 : tmp117.Candid := fun _ => (Dialogue.candid_transaction _ _ _).map _

theorem candid_of_builtin {kind path : String} {check : Check} (h : (kind, check, path) ∈ builtin) : check.Candid := by
  simp only [builtin, List.mem_cons, Prod.mk.injEq, List.not_mem_nil, or_false] at h
  obtain ⟨-, rfl, -⟩ | ⟨-, rfl, -⟩ | ⟨-, rfl, -⟩ := h
  · exact candid_tmp117
  · exact candid_register _ _
  · exact candid_register _ _

/-- No failure of a shipped check is lost. -/
theorem Shipped.candid {check : Check} (h : check.Shipped) : check.Candid := by
  rcases h with rfl | ⟨kind, hkind⟩
  · exact candid_register _ _
  · have hmem := OrderedMap.mem_entries_iff.mpr hkind
    have hentries : CheckRegistry.builtin.entries = Check.builtin.map fun known => (known.1, known.2.1) := rfl
    rw [hentries] at hmem
    obtain ⟨⟨_, _, path⟩, hbuiltin, hsame⟩ := List.mem_map.mp hmem
    obtain ⟨rfl, rfl⟩ := Prod.mk.inj hsame
    exact candid_of_builtin hbuiltin

end Check

/-! ## Validations -/

namespace DeviceHandle

variable {τ : Type} [Transport τ]

/-- A validation is carried out if the check is, or the plain read where there is none. -/
theorem validate_eq_ok_iff (h : DeviceHandle) (check : Option Check) (transport : τ) (result : ValidationOutcome) :
    ((h.validate check).run transport).value = .ok result ↔
      (∃ c passed, check = some c ∧ ((c h).run transport).value = .ok passed ∧
        result = if passed then .good else .bad) ∨
      check = none ∧ (h.rawProbe.run transport).value = .ok () ∧ result = .rawReadOk := by
  cases check with
  | none =>
    rw [validate, Dialogue.run_map]
    cases (h.rawProbe.run transport).value <;> simp [Except.map, eq_comm]
  | some c =>
    simp only [validate, Dialogue.run_map, Option.some.injEq, exists_and_left, exists_eq_left', reduceCtorEq,
      false_and, or_false]
    cases ((c h).run transport).value <;> simp [Except.map, eq_comm (a := result)]

theorem validate_eq_error_iff (h : DeviceHandle) (check : Option Check) (transport : τ) (e : AccessError) :
    ((h.validate check).run transport).value = .error e ↔
      (∃ c, check = some c ∧ ((c h).run transport).value = .error e) ∨
      check = none ∧ (h.rawProbe.run transport).value = .error e := by
  cases check with
  | none =>
    rw [validate, Dialogue.run_map]
    cases (h.rawProbe.run transport).value <;> simp [Except.map]
  | some c =>
    simp only [validate, Dialogue.run_map, Option.some.injEq, exists_eq_left', reduceCtorEq, false_and, or_false]
    cases ((c h).run transport).value <;> simp [Except.map]

theorem candid_validate (h : DeviceHandle) {check : Option Check}
    (hcheck : ∀ c, check = some c → c.Candid) : (h.validate check).Candid := by
  cases check with
  | none => exact h.candid_rawProbe.map _
  | some c => exact (hcheck c rfl h).map _

end DeviceHandle

namespace Validator

variable {τ : Type} [Transport τ]

/-- What the validation of the device of row `index` comes to over a transport. -/
structure Reports (v : Validator) (transport : τ) (index : Nat) : Prop where
  noDevice_iff : ∀ i, (v.validate transport index).value = .error (.noDevice i) ↔ v.entries.length ≤ index ∧ i = index
  good_iff : (v.validate transport index).value = .ok .good ↔ ∃ entry check, v.entries[index]? = some entry ∧
    entry.check = some check ∧ ((check entry.device).run transport).value = .ok true
  bad_iff : (v.validate transport index).value = .ok .bad ↔ ∃ entry check, v.entries[index]? = some entry ∧
    entry.check = some check ∧ ((check entry.device).run transport).value = .ok false
  rawReadOk_iff : (v.validate transport index).value = .ok .rawReadOk ↔ ∃ entry, v.entries[index]? = some entry ∧
    entry.check = none ∧ (entry.device.rawProbe.run transport).value = .ok ()
  /-- A failure of the check, or of the plain read where there is none, is reported as it is. -/
  bus_iff : ∀ e, (v.validate transport index).value = .error (.bus e) ↔ ∃ entry, v.entries[index]? = some entry ∧
    ((∃ check, entry.check = some check ∧ ((check entry.device).run transport).value = .error e) ∨
      entry.check = none ∧ (entry.device.rawProbe.run transport).value = .error e)
  /-- A failure that the transport reports is reported, unless the check conceals it. -/
  failure_iff : ∀ entry, v.entries[index]? = some entry → (∀ check, entry.check = some check → check.Candid) → ∀ e,
    (v.validate transport index).value = .error (.bus e) ↔
      (entry.device.validate entry.check).failure? transport = some e
  /-- No shipped check conceals one. -/
  shipped_iff : ∀ entry, v.entries[index]? = some entry → (∀ check, entry.check = some check → check.Shipped) → ∀ e,
    (v.validate transport index).value = .error (.bus e) ↔
      (entry.device.validate entry.check).failure? transport = some e

variable {v : Validator} {index : Nat}

theorem value_of_getElem?_eq_none (h : v.entries[index]? = none) (transport : τ) :
    (v.validate transport index).value = .error (.noDevice index) := by
  simp only [validate, h]

section

variable {entry : ValidationEntry} (h : v.entries[index]? = some entry) (transport : τ)
include h

theorem value_eq_ok_iff (result : ValidationOutcome) : (v.validate transport index).value = .ok result ↔
    ((entry.device.validate entry.check).run transport).value = .ok result := by
  simp only [validate, h]
  cases ((entry.device.validate entry.check).run transport).value <;> simp

theorem value_eq_bus_iff (e : AccessError) : (v.validate transport index).value = .error (.bus e) ↔
    ((entry.device.validate entry.check).run transport).value = .error e := by
  simp only [validate, h]
  cases ((entry.device.validate entry.check).run transport).value <;> simp

theorem value_ne_noDevice (i : Nat) : (v.validate transport index).value ≠ .error (.noDevice i) := by
  simp only [validate, h]
  cases ((entry.device.validate entry.check).run transport).value <;> simp

end

/-- The validation of a row comes to what its check says of the device, or to a plain read where there is none. -/
theorem reports (v : Validator) (transport : τ) (index : Nat) : v.Reports transport index := by
  cases hentry : v.entries[index]? with
  | none =>
    have hvalue := value_of_getElem?_eq_none hentry transport
    have hpast : v.entries.length ≤ index := List.getElem?_eq_none_iff.mp hentry
    refine ⟨?_, ?_, ?_, ?_, ?_, ?_, ?_⟩ <;> simp [hvalue, hpast, eq_comm]
  | some entry =>
    have hwithin : ¬v.entries.length ≤ index := Nat.not_le_of_lt (List.getElem?_eq_some_iff.mp hentry).1
    have hno : ∀ i, (v.validate transport index).value = .error (.noDevice i) ↔ v.entries.length ≤ index ∧ i = index :=
      fun i => iff_of_false (value_ne_noDevice hentry transport i) fun hpast => hwithin hpast.1
    have hok := value_eq_ok_iff hentry transport
    have hbus := value_eq_bus_iff hentry transport
    have hfailure : ∀ row, v.entries[index]? = some row → (∀ check, row.check = some check → check.Candid) → ∀ e,
        (v.validate transport index).value = .error (.bus e) ↔
          (row.device.validate row.check).failure? transport = some e := by
      intro row hrow hcandid e
      obtain rfl := Option.some.inj (hentry.symm.trans hrow)
      rw [hbus, (entry.device.candid_validate hcandid).run_eq_error_iff]
    refine ⟨hno, ?_, ?_, ?_, ?_, hfailure, fun row hrow hshipped => hfailure row hrow fun check hcheck => ?_⟩
    · rw [hok, entry.device.validate_eq_ok_iff]
      simp [hentry]
    · rw [hok, entry.device.validate_eq_ok_iff]
      simp [hentry]
    · rw [hok, entry.device.validate_eq_ok_iff]
      simp [hentry]
    · intro e
      rw [hbus, entry.device.validate_eq_error_iff]
      simp [hentry]
    · exact (hshipped check hcheck).candid

end Validator

end I2cTopology
