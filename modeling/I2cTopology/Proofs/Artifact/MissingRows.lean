import I2cTopology.Proofs.Artifact.Validation

/-!
# Rows that an artifact lacks

An artifact is a value, so its table of devices may have lost rows that other parts refer to. Its text tells the first
such row in the order of writing, and exists exactly if there is none (`Artifact.TellsMissingRows`,
`Artifact.tells_missing_rows`); the artifact of a resolved document has none. An artifact that has a text has tables
too, up to the checks that a registry may lack.
-/

namespace I2cTopology

namespace Artifact

variable {α : Type} {a : Artifact} {rows : List Nat} {x : Except EmitError α}

/-! ## The first row that is missing -/

/-- There is a result exactly if the table has each row that is taken. -/
theorem Takes.exists_ok_iff (h : a.Takes rows x) :
    (∃ value, x = .ok value) ↔ ∀ row ∈ rows, row < a.devices.length := by
  refine ⟨?_, h.exists_ok⟩
  rintro ⟨value, rfl⟩
  unfold Takes at h
  cases hfind : rows.find? fun row => a.devices.length ≤ row with
  | none => simpa using hfind
  | some row =>
    rw [hfind] at h
    cases h

/-- The only failure is the first row that is taken and missing. -/
theorem Takes.eq_error_iff (h : a.Takes rows x) {e : EmitError} : x = .error e ↔
    ∃ before row after, rows = before ++ row :: after ∧ (∀ r ∈ before, r < a.devices.length) ∧
      a.devices.length ≤ row ∧ e = .missingDevice row := by
  unfold Takes at h
  have hfirst : ∀ row, rows.find? (fun row => a.devices.length ≤ row) = some row ↔
      ∃ before after, rows = before ++ row :: after ∧ (∀ r ∈ before, r < a.devices.length) ∧
        a.devices.length ≤ row := by
    intro row
    rw [List.find?_eq_some_iff_append]
    simp only [decide_eq_true_eq, Bool.not_eq_true', decide_eq_false_iff_not, Nat.not_le]
    constructor
    · rintro ⟨hrow, before, after, hsplit, hbefore⟩
      exact ⟨before, after, hsplit, hbefore, hrow⟩
    · rintro ⟨before, after, hsplit, hbefore, hrow⟩
      exact ⟨hrow, before, after, hsplit, hbefore⟩
  cases hfind : rows.find? fun row => a.devices.length ≤ row with
  | none =>
    rw [hfind] at h
    obtain ⟨value, rfl⟩ := h
    refine iff_of_false (by simp) ?_
    rintro ⟨before, row, after, hsplit, hbefore, hrow, -⟩
    rw [(hfirst row).mpr ⟨before, after, hsplit, hbefore, hrow⟩] at hfind
    cases hfind
  | some row =>
    rw [hfind] at h
    subst h
    rw [Except.error.injEq]
    constructor
    · rintro rfl
      obtain ⟨before, after, hsplit, hbefore, hrow⟩ := (hfirst row).mp hfind
      exact ⟨before, row, after, hsplit, hbefore, hrow, rfl⟩
    · rintro ⟨before, other, after, hsplit, hbefore, hother, rfl⟩
      -- the row that comes first is determined
      rw [(hfirst other).mpr ⟨before, after, hsplit, hbefore, hother⟩] at hfind
      rw [Option.some.inj hfind]

/-! ## Texts and tables -/

/-- The row of each arm of the validation is taken by the text. -/
theorem device_mem_writtenRows {arm : ValidationArm} (h : arm ∈ a.arms) : arm.device ∈ a.writtenRows := by
  unfold arms at h
  cases hvalidation : a.validation with
  | none =>
    rw [hvalidation] at h
    cases h
  | some all =>
    rw [hvalidation] at h
    refine List.mem_append_right _ ?_
    rw [hvalidation, Option.toList_some, List.flatMap_singleton]
    exact List.mem_map_of_mem h

/-- Tables for which each validated row is there fail only for a check that is not at hand. -/
theorem unregistered_of_tables_eq_error (hrows : ∀ arm ∈ a.arms, arm.device < a.devices.length)
    {registry : CheckRegistry} {e : EmitError} (h : a.tables registry = .error e) :
    ∃ kind path, registry.get? kind = none ∧ e = .unregisteredCheck kind path := by
  rw [tables_eq_error_iff, mapM_eq_error_iff] at h
  obtain ⟨before, arm, after, hsplit, -, harm⟩ := h
  have hlt := hrows arm (hsplit ▸ List.mem_append_right _ List.mem_cons_self)
  obtain ⟨path, -, hnone, rfl⟩ := (validated_eq_error_iff (List.getElem?_eq_getElem hlt)).mp harm
  exact ⟨_, path, hnone, rfl⟩

/-- How an artifact tells of rows that its table of devices lacks. -/
structure TellsMissingRows (a : Artifact) : Prop where
  /-- There is a text exactly if each row that is written is there. -/
  text_iff : (∃ text, a.render = .ok text) ↔ ∀ row ∈ a.writtenRows, row < a.devices.length
  /-- Otherwise the first missing row in the order of writing is the failure. -/
  error_iff : ∀ e, a.render = .error e ↔ ∃ before row after, a.writtenRows = before ++ row :: after ∧
    (∀ r ∈ before, r < a.devices.length) ∧ a.devices.length ≤ row ∧ e = .missingDevice row
  /-- No row is missing in what is made of a board. -/
  made : ∀ (d : Document) (t : Topology) (dispositions : List Disposition) (o : EmitOptions), d.resolve = .ok t →
    ofTopology t dispositions o = .ok a → ∃ text, a.render = .ok text
  /-- If there is a text, nothing but a check can be missing from the tables. -/
  tables : ∀ text, a.render = .ok text → ∀ registry e, a.tables registry = .error e →
    ∃ kind path, registry.get? kind = none ∧ e = .unregisteredCheck kind path

/-- **Texts tell of exactly the missing rows.** This holds of every artifact, whatever has become of its table of
devices after it was made. -/
theorem tells_missing_rows (a : Artifact) : a.TellsMissingRows := by
  have htext := a.takes_render.exists_ok_iff
  refine ⟨htext, fun e => a.takes_render.eq_error_iff, fun d t dispositions o hresolve ha => ?_,
    fun text hok registry e he => ?_⟩
  · exact exists_render hresolve ha
  · have hrows := htext.mp ⟨text, hok⟩
    exact unregistered_of_tables_eq_error (fun arm harm => hrows _ (device_mem_writtenRows harm)) he

end Artifact

namespace HotSwapCheck

/-- The artifact of the board after its table has lost the last row. -/
def shortened : Artifact := { artifact with devices := artifact.devices.take 2 }

/-- The text tells that the last row is missing, and so do the tables, in which the row is that of an arm; nothing was
missing before. -/
theorem tells_missing_last_row : shortened.TellsMissingRows ∧ artifact.TellsMissingRows ∧
    shortened.writtenRows = [0, 1, 2] ∧ shortened.render = .error (.missingDevice 2) ∧
    shortened.tables registry = .error (.missingValidated 2) ∧ ∃ text, artifact.render = .ok text := by
  have hshortened := Artifact.tells_missing_rows shortened
  have hwhole := Artifact.tells_missing_rows artifact
  have hresolve : document.resolve = .ok board := rfl
  refine ⟨hshortened, hwhole, rfl, ?_, rfl, hwhole.made document board [.validation] options hresolve rfl⟩
  exact (hshortened.error_iff _).mpr ⟨[0, 1], 2, [], rfl, by decide, by decide, rfl⟩

end HotSwapCheck

end I2cTopology
