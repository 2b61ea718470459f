import I2cTopology.Proofs.Artifact.Failures
import I2cTopology.Proofs.Resolution.Checked

/-!
# Nothing is out of range

No index that is taken on the way from a document to its artifacts misses its table, no sum of sensor ids exceeds 32
bits and no pin is shifted out of its mask, whatever the document declares: its resolution does not stop at a check
(`Document.checkedResolve_eq`), and neither does what is made of the board that it describes (`Topology.InRange`,
`Document.nothing_out_of_range`).
-/

namespace I2cTopology

/-! ## Rows that artifacts are made from -/

/-- No artifact of a resolved document fails for a missing row. -/
theorem Document.ofTopology_ne_missingRow {d : Document} {t : Topology} (h : d.resolve = .ok t)
    (dispositions : List Disposition) (o : EmitOptions) (table : RowTable) (row : Nat) :
    Artifact.ofTopology t dispositions o ≠ .error (.missingRow table row) := by
  intro hmissing
  have hemit : t.emit dispositions o = .error (.missingRow table row) := by
    rw [Topology.emit, hmissing]
    rfl
  by_cases hparts : .initiator ∈ dispositions ∧ .target ∈ dispositions
  · rw [emit_of_conflict hparts] at hemit
    cases hemit
  · cases hfull : o.standalone with
    | true =>
      obtain ⟨text, htext⟩ := exists_emit_standalone h hparts hfull
      rw [htext] at hemit
      cases hemit
    | false =>
      rcases failure_of_emit h hparts hfull hemit with ⟨-, -, he⟩ | ⟨c, -, -, he⟩ | ⟨a, b, -, -, -, -, he⟩ <;> cases he

/-! ## Sums of sensor ids -/

/-- The end of each of some consecutive runs is no later than that of all of them. -/
theorem SensorRange.Consecutive.end_le {start : Nat} {rs : List SensorRange} (h : Consecutive start rs)
    {r : SensorRange} (hr : r ∈ rs) : r.first + r.count ≤ start + sum rs := by
  obtain ⟨before, after, rfl⟩ := List.append_of_mem hr
  obtain ⟨-, hfirst, -⟩ := consecutive_append.mp h
  rw [hfirst, sum_append]
  show _ ≤ start + (sum before + (r.count + sum after))
  omega

theorem SensorRange.checkedIds_eq {r : SensorRange} (h : r.first + r.count < sensorIdLimit) :
    r.checkedIds = .ok r.ids := by
  rw [checkedIds, wordSum, if_pos h]
  show Except.ok (List.range' r.first (r.first + r.count - r.first)) = _
  rw [Nat.add_sub_cancel_left]
  rfl

/-- Counts are added up without a check failing if all of them together fit. -/
theorem SensorBinding.foldlM_wordSum {rs : List SensorRange} {n : Nat} (h : n + SensorRange.sum rs < sensorIdLimit) :
    rs.foldlM (fun n r => wordSum n r.count) n = .ok (n + SensorRange.sum rs) := by
  induction rs generalizing n with
  | nil => rfl
  | cons r rs ih =>
    have hsum : n + SensorRange.sum (r :: rs) = n + r.count + SensorRange.sum rs := by
      simp [SensorRange.sum, Nat.add_assoc]
    rw [hsum] at h ⊢
    rw [List.foldlM_cons, wordSum, if_pos (Nat.lt_of_le_of_lt (Nat.le_add_right _ _) h)]
    exact ih h

theorem SensorBinding.count_eq (b : SensorBinding) : b.count = SensorRange.sum b.ranges := by
  rw [count, SensorRange.sum, List.sum_eq_foldr, List.foldr_map]

theorem SensorBinding.checkedCount_eq {b : SensorBinding} (h : SensorRange.sum b.ranges < sensorIdLimit) :
    b.checkedCount = .ok b.count := by
  rw [← Nat.zero_add (SensorRange.sum b.ranges)] at h
  rw [checkedCount, foldlM_wordSum h, Nat.zero_add, count_eq]

/-- The runs of a device have no more ids than there are in use. -/
theorem SensorRange.sum_le_of_mem {bs : List SensorBinding} {b : SensorBinding} (h : b ∈ bs) :
    sum b.ranges ≤ sum (bs.flatMap (·.ranges)) := by
  obtain ⟨before, after, rfl⟩ := List.append_of_mem h
  rw [List.flatMap_append, List.flatMap_cons, sum_append, sum_append]
  omega

/-! ## Documents and their boards -/

/-- Nothing that is made of a board takes an index or a sum out of range. -/
structure Topology.InRange (t : Topology) : Prop where
  /-- Each row that an artifact is made from is there. -/
  rows : ∀ (dispositions : List Disposition) (o : EmitOptions) (table : RowTable) (row : Nat),
    Artifact.ofTopology t dispositions o ≠ .error (.missingRow table row)
  /-- The end of each run of ids is a sum of 32 bits. -/
  ids : ∀ b ∈ t.sensors.bindings, ∀ r ∈ b.ranges, r.checkedIds = .ok r.ids
  /-- So is the number of sensors on a device, after each of its runs. -/
  counts : ∀ b ∈ t.sensors.bindings, b.checkedCount = .ok b.count

theorem Document.inRange_of_resolve {d : Document} {t : Topology} (h : d.resolve = .ok t) : t.InRange := by
  have hbinds := binds_of_resolve h
  have htotal : 0 + SensorRange.sum t.sensors.runs < sensorIdLimit := by
    rw [Nat.zero_add, ← hbinds.total_eq]
    exact (covers_of_resolve h).sensors_lt
  refine ⟨ofTopology_ne_missingRow h, fun b hb r hr => ?_, fun b hb => ?_⟩
  · have hrun : r ∈ t.sensors.runs := List.mem_flatMap.mpr ⟨b, hb, hr⟩
    exact SensorRange.checkedIds_eq (Nat.lt_of_le_of_lt (hbinds.consecutive.end_le hrun) htotal)
  · have hle : SensorRange.sum b.ranges ≤ SensorRange.sum t.sensors.runs := SensorRange.sum_le_of_mem hb
    exact SensorBinding.checkedCount_eq (by omega)

/-- **Nothing is out of range.** The resolution of any document has with its checks the outcome that it has without,
and what is made of the board that comes out is in range. -/
theorem Document.nothing_out_of_range (d : Document) :
    d.checkedResolve = orRefused d.resolve ∧ (∀ table row, d.resolve ≠ .error (.missingRow table row)) ∧
      ∀ t, d.resolve = .ok t → t.InRange :=
  ⟨d.checkedResolve_eq.1, d.checkedResolve_eq.2, fun _ h => inRange_of_resolve h⟩

namespace LastSensorId

/-- The checks let the last id pass, and stop at the one after it. -/
theorem nothing_out_of_range_up_to_last : document.checkedResolve = .ok board ∧ board.InRange ∧
    (SensorRange.mk .speed 4294967293 2).checkedIds = .ok [4294967293, 4294967294] ∧
    (SensorRange.mk .speed 4294967293 3).checkedIds = .error (.sum 4294967293 3) := by
  obtain ⟨hchecked, -, hrange⟩ := Document.nothing_out_of_range document
  exact ⟨hchecked.trans rfl, hrange board rfl, rfl, rfl⟩

end LastSensorId

end I2cTopology
