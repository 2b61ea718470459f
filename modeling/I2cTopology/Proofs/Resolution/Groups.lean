import I2cTopology.Proofs.Resolution.Validity

/-!
# Groups and rails

The group of a kind lists exactly the devices of that kind, in their order, and under each bus those of them that sit
on it (`Topology.Grouped`, `Document.grouped_of_resolve`). So all that the groups and the rails of a board refer to are
rows of its table of devices (`Document.groupRows_lt`, `Document.claims_lt`).
-/

namespace I2cTopology

/-! ## What the groups list -/

/-- The groups list the devices of each kind, and those of them on each bus, in their order; no rail is nameless. -/
structure Topology.Grouped (t : Topology) : Prop where
  devices : ∀ kind, (t.group kind).devices = t.devices.findIdxs (·.kind == kind)
  byBus : ∀ kind bus, ((t.group kind).byBus.get? bus).getD [] =
    t.devices.findIdxs fun b => b.kind == kind && b.bus == some bus
  rails : t.rails.get? "" = none

/-- The devices of a group on a bus, after one more has been entered. -/
theorem DeviceGroup.get?_byBus_enter (g : DeviceGroup) (row : Nat) (b : BoardDevice) (bus : String) :
    ((g.enter row b).byBus.get? bus).getD [] =
      (g.byBus.get? bus).getD [] ++ if b.bus == some bus then [row] else [] := by
  unfold enter
  cases hbus : b.bus with
  | none => simp
  | some other =>
    by_cases hsame : bus = other
    · subst hsame
      simp [OrderedMap.get?_upsert]
    · simp [OrderedMap.get?_upsert, hsame, Ne.symm hsame]

namespace Topology

variable {t u : Topology} {d : DeviceDecl}

/-- An empty name only holds a place, so no rail has it. -/
theorem get?_claimPower_empty (h : t.rails.get? "" = none) {rails : OrderedMap String (List RailClaim)}
    (hrails : t.claimPower d = .ok rails) : rails.get? "" = none := by
  unfold claimPower at hrails
  cases hw : d.power with
  | none =>
    rw [hw] at hrails
    obtain rfl := Except.ok.inj hrails
    exact h
  | some w =>
    rw [hw] at hrails
    obtain ⟨-, hwalk⟩ := claimRails_eq_ok_iff.mp hrails
    refine foldlM_keeps (fun _ (rails : OrderedMap String (List RailClaim)) => rails.get? "" = none) ?_ [] h hwalk
    rintro - before ⟨rail, index⟩ after hbefore hstep
    simp only [claimRail] at hstep
    split at hstep
    · obtain rfl := Except.ok.inj hstep
      exact hbefore
    · rename_i hempty
      simp at hstep
      obtain ⟨-, -, -, -, -, -, rfl⟩ := hstep
      rw [OrderedMap.get?_upsert, if_neg fun e : "" = rail => hempty (by rw [← e]; rfl)]
      exact hbefore

theorem Grouped.addDevice (h : t.Grouped) (hu : t.addDevice d = .ok u) : u.Grouped := by
  obtain ⟨b, group, sensors, rails, -, hgroup, -, hrails, rfl⟩ := addDevice_eq_ok_iff.mp hu
  obtain ⟨-, rfl⟩ := DeviceGroup.add_eq_ok_iff.mp hgroup
  refine ⟨fun kind => ?_, fun kind bus => ?_, get?_claimPower_empty h.rails hrails⟩
  · have hold := h.devices kind
    rw [List.findIdxs_append, List.findIdxs_singleton, Nat.zero_add, ← hold, Topology.group, OrderedMap.get?_insert]
    by_cases hkind : kind = b.kind
    · subst hkind
      simp [DeviceGroup.enter]
    · simp [hkind, Ne.symm hkind, Topology.group]
  · have hold := h.byBus kind bus
    rw [List.findIdxs_append, List.findIdxs_singleton, Nat.zero_add, ← hold, Topology.group, OrderedMap.get?_insert]
    by_cases hkind : kind = b.kind
    · subst hkind
      simp [DeviceGroup.get?_byBus_enter]
    · simp [hkind, Ne.symm hkind, Topology.group]

theorem grouped_ofControllers (cs : List ControllerDecl) : (ofControllers cs).Grouped := by
  refine ⟨fun kind => ?_, fun kind bus => ?_, rfl⟩
  · rfl
  · rfl

end Topology

theorem Document.grouped_of_resolve {d : Document} {t : Topology} (h : d.resolve = .ok t) : t.Grouped := by
  obtain ⟨s, hs, ht⟩ := bind_eq_ok_iff.mp h
  obtain ⟨-, rfl⟩ := foldlM_addController_eq_ok_iff.mp hs
  refine foldlM_keeps (fun _ t => Topology.Grouped t) ?_ [] (Topology.grouped_ofControllers d.controllers) ht
  intro _ t device u ht hu
  exact ht.addDevice hu

/-! ## What groups and rails refer to -/

/-- The rows that a group refers to. -/
def DeviceGroup.rows (g : DeviceGroup) : List Nat :=
  g.devices ++ g.byName.entries.map Prod.snd ++ g.byRefdes.entries.map Prod.snd ++ g.byBus.entries.flatMap Prod.snd

namespace Document

variable {d : Document} {t : Topology}

theorem groupRows_lt (h : d.resolve = .ok t) {kind : String} {g : DeviceGroup} (hg : (kind, g) ∈ t.groups.entries) :
    ∀ row ∈ g.rows, row < t.devices.length := by
  have hcovers := covers_of_resolve h
  have hgrouped := grouped_of_resolve h
  obtain rfl : t.group kind = g := by
    rw [Topology.group, OrderedMap.mem_entries_iff.mp hg]
    rfl
  -- an identifier leads to a device, so to a row of the table
  have hleads : ∀ {known : OrderedMap String Nat} {identifiers : DeviceDecl → List String},
      Leads known kind identifiers d.devices → ∀ row ∈ known.entries.map Prod.snd, row < t.devices.length := by
    intro known identifiers hknown row hrow
    obtain ⟨⟨i, _⟩, he, rfl⟩ := List.mem_map.mp hrow
    obtain ⟨e, hrow', -⟩ := (hknown i _).mp (OrderedMap.mem_entries_iff.mp he)
    rw [hcovers.length_devices]
    exact (List.getElem?_eq_some_iff.mp hrow').1
  intro row hrow
  simp only [DeviceGroup.rows, List.mem_append] at hrow
  rcases hrow with ((hrow | hrow) | hrow) | hrow
  · rw [hgrouped.devices] at hrow
    exact List.lt_add_of_mem_findIdxs _ hrow
  · exact hleads (hcovers.names kind) row hrow
  · exact hleads (hcovers.refdes kind) row hrow
  · obtain ⟨⟨bus, rows⟩, he, hmem⟩ := List.mem_flatMap.mp hrow
    have hbus := hgrouped.byBus kind bus
    rw [OrderedMap.mem_entries_iff.mp he, Option.getD_some] at hbus
    rw [show rows = _ from hbus] at hmem
    exact List.lt_add_of_mem_findIdxs _ hmem

theorem claims_lt (h : d.resolve = .ok t) {rail : String} {claims : List RailClaim}
    (hclaims : (rail, claims) ∈ t.rails.entries) : ∀ claim ∈ claims, claim.device < t.devices.length := by
  have hfound := OrderedMap.mem_entries_iff.mp hclaims
  intro claim hclaim
  refine (covers_of_resolve h).claimsBefore rail (fun hempty => ?_) claim ?_
  · rw [hempty, (grouped_of_resolve h).rails] at hfound
    cases hfound
  · rw [hfound]
    exact hclaim

end Document

end I2cTopology
