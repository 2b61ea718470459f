import I2cTopology.Proofs.Resolution.Lookups

/-!
# Power rails

A board has the non-empty rail names that its devices list, in the order in which they first appear, and under each of
them one claim for each device that lists it, in the order of devices (`Topology.RailsIndexed`). That two devices of one
kind share a rail only as phase controllers is checked for each device against those before it, and so holds of each
pair (`Document.rails_indexed`).
-/

namespace I2cTopology

/-! ## What a device lists -/

namespace DeviceDecl

/-- The names of the rails that a device lists, with the empty ones that hold a place. -/
def railNames (e : DeviceDecl) : List String :=
  match e.power with
  | some w => w.rails
  | none => []

/-- A device is one of several phase controllers of its rails. -/
def IsMultiphase (e : DeviceDecl) : Prop := ∃ w, e.power = some w ∧ w.multiphase = true

/-- A claim is the share of a device in a rail: the one position at which the device lists it, and what it lists there
of phases, if it lists any. -/
structure HasShare (e : DeviceDecl) (rail : String) (claim : RailClaim) : Prop where
  index_iff : ∀ position, e.railNames[position]? = some rail ↔ position = claim.index
  no_phases : ∀ w, e.power = some w → w.phases = none → claim.phases = none
  phases : ∀ w phases, e.power = some w → w.phases = some phases →
    ∃ own, phases[claim.index]? = some own ∧ claim.phases = some own

theorem mem_railNames {e : DeviceDecl} {rail : String} :
    rail ∈ e.railNames ↔ ∃ w, e.power = some w ∧ rail ∈ w.rails := by
  unfold railNames
  cases e.power <;> simp

end DeviceDecl

namespace Document

/-- The rails that the devices list, in the order in which they first appear. -/
def railNames (d : Document) : List String := ((d.devices.flatMap (·.railNames)).filter (· ≠ "")).eraseDups

/-- The device in a row lists a rail. -/
def ListsRail (d : Document) (rail : String) (row : Nat) : Prop := ∃ e, d.devices[row]? = some e ∧ rail ∈ e.railNames

end Document

/-- The rails of a board are those that the devices of a document list. -/
structure Topology.RailsIndexed (t : Topology) (d : Document) : Prop where
  rails_eq : t.rails.keys = d.railNames
  /-- Each device that lists a rail has one claim to it, in the order of devices. -/
  devices : ∀ rail claims, t.rails.get? rail = some claims →
    Enumerates (claims.map (·.device)) (d.ListsRail rail)
  shares : ∀ rail claims, t.rails.get? rail = some claims → ∀ claim ∈ claims,
    ∃ e, d.devices[claim.device]? = some e ∧ e.HasShare rail claim
  /-- Devices of one kind share a rail only if both are phase controllers. -/
  multiphase : ∀ rail claims, t.rails.get? rail = some claims → claims.Pairwise fun a b => ∀ e k,
    d.devices[a.device]? = some e → d.devices[b.device]? = some k → e.device = k.device →
      e.IsMultiphase ∧ k.IsMultiphase

/-! ## The names of the rails -/

namespace Topology

variable {t u : Topology} {d : DeviceDecl}

/-- One more rail that is claimed comes behind the others, unless it is one of them or its name is empty. -/
theorem keys_claimRail {row : Nat} {kind : String} {w : PowerDecl} {rails next : OrderedMap String (List RailClaim)}
    {entry : String × Nat} {names : List String} (h : t.claimRail row kind w rails entry = .ok next)
    (hkeys : rails.keys = (names.filter (· ≠ "")).eraseDups) :
    next.keys = ((names ++ [entry.1]).filter (· ≠ "")).eraseDups := by
  obtain ⟨rail, index⟩ := entry
  rw [List.filter_append]
  simp only [claimRail] at h
  split at h
  · rename_i hempty
    rw [String.isEmpty_iff] at hempty
    obtain rfl := Except.ok.inj h
    simpa [hempty] using hkeys
  · rename_i hname
    rw [String.isEmpty_iff] at hname
    simp at h
    obtain ⟨-, -, -, -, -, -, rfl⟩ := h
    rw [List.filter_singleton, decide_eq_true hname]
    exact OrderedMap.keys_upsert_eq_eraseDups hkeys rail _

/-- The rails after a device got its shares. -/
theorem keys_claimPower {rails : OrderedMap String (List RailClaim)} {names : List String}
    (h : t.claimPower d = .ok rails) (hkeys : t.rails.keys = (names.filter (· ≠ "")).eraseDups) :
    rails.keys = ((names ++ d.railNames).filter (· ≠ "")).eraseDups := by
  unfold claimPower at h
  unfold DeviceDecl.railNames
  cases hw : d.power with
  | none =>
    rw [hw] at h
    obtain rfl := Except.ok.inj h
    rwa [List.append_nil]
  | some w =>
    rw [hw] at h
    obtain ⟨-, hwalk⟩ := claimRails_eq_ok_iff.mp h
    have hall := foldlM_keeps (fun before (rails : OrderedMap String (List RailClaim)) =>
      rails.keys = ((names ++ before.map Prod.fst).filter (· ≠ "")).eraseDups)
      (fun {before rails entry next} hbefore hstep => by
        rw [List.map_append, ← List.append_assoc]
        exact keys_claimRail hstep hbefore)
      [] (by simpa using hkeys) hwalk
    rwa [List.nil_append, List.zipIdx_map_fst] at hall

end Topology

/-! ## The claims to a rail -/

/-- A device lists a rail once. -/
theorem PowerDecl.Fits.position_unique {w : PowerDecl} (h : w.Fits) {rail : String} (hrail : rail ≠ "") {i j : Nat}
    (hi : w.rails[i]? = some rail) (hj : w.rails[j]? = some rail) : i = j := by
  have hrails := h.rails
  rw [List.Nodup, List.pairwise_filter, List.pairwise_iff_getElem] at hrails
  obtain ⟨hi, hri⟩ := List.getElem?_eq_some_iff.mp hi
  obtain ⟨hj, hrj⟩ := List.getElem?_eq_some_iff.mp hj
  rcases Nat.lt_trichotomy i j with hlt | heq | hlt
  · exact absurd (hri.trans hrj.symm) (hrails i j hi hj hlt (by simpa [hri] using hrail) (by simpa [hrj] using hrail))
  · exact heq
  · exact absurd (hrj.trans hri.symm) (hrails j i hj hi hlt (by simpa [hrj] using hrail) (by simpa [hri] using hrail))

/-- A device has no two claims to a rail. -/
theorem PowerDecl.Fits.pairwise_claims {w : PowerDecl} (h : w.Fits) {rail : String} (hrail : rail ≠ "") (row : Nat) :
    (w.claims row w.rails.zipIdx rail).Pairwise fun a b => a.device < b.device := by
  have hpositions : (w.claims row w.rails.zipIdx rail).Pairwise fun a b => a.index < b.index := by
    refine List.pairwise_map.mpr (List.Pairwise.filter _ ?_)
    rw [← List.pairwise_map (f := Prod.snd) (R := (· < ·)), List.zipIdx_map_snd]
    exact List.pairwise_lt_range'
  refine hpositions.imp_of_mem fun {a b} ha hb hlt => ?_
  obtain ⟨-, hia, -⟩ := mem_claims_iff.mp ha
  obtain ⟨-, hib, -⟩ := mem_claims_iff.mp hb
  exact absurd (h.position_unique hrail hia hib) (Nat.ne_of_lt hlt)

theorem pairwise_railClaims {rail : String} (hrail : rail ≠ "") {ds : List DeviceDecl}
    (h : ∀ e ∈ ds, ∀ w, e.power = some w → w.Fits) (start : Nat) :
    (railClaims rail start ds).Pairwise fun a b => a.device < b.device := by
  induction ds generalizing start with
  | nil => exact .nil
  | cons d ds ih =>
    rw [List.forall_mem_cons] at h
    refine List.pairwise_append.mpr ⟨?_, ih h.2 (start + 1), fun a ha b hb => ?_⟩
    · cases hw : d.power with
      | none => exact .nil
      | some w => exact (h.1 w hw).pairwise_claims hrail start
    · obtain ⟨i, -, -, hlater, -⟩ := mem_railClaims hb
      cases hw : d.power with
      | none => simp [hw] at ha
      | some w =>
        simp only [hw] at ha
        have hrow := (PowerDecl.mem_claims_iff.mp ha).1
        omega

/-! ## Whole documents -/

namespace Document

variable {d : Document} {t : Topology}

theorem keys_rails_of_resolve (h : d.resolve = .ok t) : t.rails.keys = d.railNames := by
  refine knows_of_resolve h (fun ds t => t.rails.keys = ((ds.flatMap (·.railNames)).filter (· ≠ "")).eraseDups) rfl ?_
  intro ds t e u _ hkeys hu
  obtain ⟨b, group, sensors, rails, -, -, -, hrails, rfl⟩ := Topology.addDevice_eq_ok_iff.mp hu
  rw [List.flatMap_append, List.flatMap_singleton]
  exact Topology.keys_claimPower hrails hkeys

/-- What is found under a rail are the claims of the devices to it. -/
theorem get?_rails_eq (h : d.resolve = .ok t) {rail : String} {claims : List RailClaim}
    (hclaims : t.rails.get? rail = some claims) : rail ≠ "" ∧ claims = railClaims rail 0 d.devices := by
  have hrail : rail ≠ "" := fun hempty => by
    rw [hempty, (grouped_of_resolve h).rails] at hclaims
    cases hclaims
  have hall := (covers_of_resolve h).rails rail hrail
  rw [hclaims, Option.getD_some] at hall
  exact ⟨hrail, hall⟩

/-- Each device that lists a rail has one claim to it, in the order of devices. -/
theorem enumerates_claims (h : d.resolve = .ok t) {rail : String} {claims : List RailClaim}
    (hclaims : t.rails.get? rail = some claims) :
    Enumerates (claims.map (·.device)) (d.ListsRail rail) := by
  obtain ⟨hrail, rfl⟩ := get?_rails_eq h hclaims
  have hfits : ∀ e ∈ d.devices, ∀ w, e.power = some w → w.Fits := fun e he => (fits_of_resolve h e he).power
  refine ⟨List.pairwise_map.mpr (pairwise_railClaims hrail hfits 0), fun row => ?_⟩
  simp only [List.mem_map, ListsRail, DeviceDecl.mem_railNames]
  constructor
  · rintro ⟨claim, hclaim, rfl⟩
    obtain ⟨i, e, w, hrow, he, hw, hmem⟩ := mem_railClaims hclaim
    rw [Nat.zero_add] at hrow
    exact ⟨e, hrow ▸ he, w, hw, hmem⟩
  · rintro ⟨e, he, w, hw, hmem⟩
    obtain ⟨claim, hclaim, hrow⟩ := exists_mem_railClaims hw hmem 0 row he
    exact ⟨claim, hclaim, hrow.trans (Nat.zero_add row)⟩

theorem exists_hasShare (h : d.resolve = .ok t) {rail : String} {claims : List RailClaim}
    (hclaims : t.rails.get? rail = some claims) {claim : RailClaim} (hclaim : claim ∈ claims) :
    ∃ e, d.devices[claim.device]? = some e ∧ e.HasShare rail claim := by
  obtain ⟨hrail, rfl⟩ := get?_rails_eq h hclaims
  obtain ⟨i, e, w, hrow, he, hw, hindex, hphases⟩ := mem_railClaims_iff.mp hclaim
  rw [Nat.zero_add] at hrow
  have hfits := (fits_of_resolve h e (List.mem_of_getElem? he)).power w hw
  have hnames : e.railNames = w.rails := by rw [DeviceDecl.railNames, hw]
  refine ⟨e, hrow ▸ he, ⟨fun position => ?_, fun v hv hnone => ?_, fun v phases hv hsome => ?_⟩⟩
  · rw [hnames]
    exact ⟨fun hposition => hfits.position_unique hrail hposition hindex, fun heq => heq ▸ hindex⟩
  · obtain rfl := Option.some.inj (hw.symm.trans hv)
    rw [hphases, hnone, Option.bind_none]
  · obtain rfl := Option.some.inj (hw.symm.trans hv)
    have hlt : claim.index < phases.length := by
      rw [hfits.phases phases hsome]
      exact (List.getElem?_eq_some_iff.mp hindex).1
    rw [hphases, hsome, Option.bind_some]
    exact ⟨phases[claim.index], List.getElem?_eq_getElem hlt, List.getElem?_eq_getElem hlt⟩

/-- Devices of one kind share a rail only if both are phase controllers. -/
theorem pairwise_multiphase (h : d.resolve = .ok t) {rail : String} {claims : List RailClaim}
    (hclaims : t.rails.get? rail = some claims) : claims.Pairwise fun a b => ∀ e k,
      d.devices[a.device]? = some e → d.devices[b.device]? = some k → e.device = k.device →
        e.IsMultiphase ∧ k.IsMultiphase := by
  obtain ⟨hrail, rfl⟩ := get?_rails_eq h hclaims
  have hfits : ∀ e ∈ d.devices, ∀ w, e.power = some w → w.Fits := fun e he => (fits_of_resolve h e he).power
  refine (pairwise_railClaims hrail hfits 0).imp_of_mem fun {a b} ha hb hlt e k he hk hkind => ?_
  obtain ⟨i, _, v, hrow, he', hv, hmem⟩ := mem_railClaims ha
  obtain ⟨j, _, w, hrow', hk', hw, hmem'⟩ := mem_railClaims hb
  rw [Nat.zero_add] at hrow hrow'
  subst hrow hrow'
  obtain rfl := Option.some.inj (he.symm.trans he')
  obtain rfl := Option.some.inj (hk.symm.trans hk')
  obtain ⟨hi, rfl⟩ := List.getElem?_eq_some_iff.mp he
  obtain ⟨hj, rfl⟩ := List.getElem?_eq_some_iff.mp hk
  -- the later device of the two was checked against the earlier one
  have hbeside := List.pairwise_iff_getElem.mp (fitsBeside_of_resolve h) _ _ hi hj hlt
  obtain ⟨hfirst, hsecond⟩ := hbeside.rails hkind v w hv hw rail hrail hmem hmem'
  exact ⟨⟨v, hv, hfirst⟩, ⟨w, hw, hsecond⟩⟩

/-- **Rails are indexed.** The board of a resolved document has the rails that its devices list, with one claim for
each device that lists a rail. -/
theorem rails_indexed (h : d.resolve = .ok t) : t.RailsIndexed d where
  rails_eq := keys_rails_of_resolve h
  devices _ _ hclaims := enumerates_claims h hclaims
  shares _ _ hclaims _ hclaim := exists_hasShare h hclaims hclaim
  multiphase _ _ hclaims := pairwise_multiphase h hclaims

end Document

namespace RailsBehindGaps

/-- Two phase controllers of one kind and a monitor of another share a rail, which they list at different positions and
behind empty names; phases are listed by one of them only. -/
def document : Document where
  controllers := [{ controller := 1, ports := .ofList [("A", { name := some "power" })] }]
  devices := [
    { device := "raa229618", bus := some "power", address := 0x60,
      power := some { rails := ["VDD", "", "VCORE"], phases := some [[0], [], [1, 2]], multiphase := true } },
    { device := "adm1272", bus := some "power", address := 0x10, power := some { rails := ["", "VCORE", "V12"] } },
    { device := "raa229618", bus := some "power", address := 0x61,
      power := some { rails := ["", "VCORE"], multiphase := true } }]

def board : Topology := document.resolve.toOption.getD {}

/-- The empty names count in the positions and in the lists of phases. -/
theorem rails_indexed_behind_empty_names :
    document.resolve = .ok board ∧ board.rails.keys = ["VDD", "VCORE", "V12"] ∧
    board.rails.get? "VCORE" = some [⟨0, 2, some [1, 2]⟩, ⟨1, 1, none⟩, ⟨2, 1, none⟩] ∧
    board.RailsIndexed document :=
  ⟨rfl, rfl, rfl, Document.rails_indexed rfl⟩

end RailsBehindGaps

end I2cTopology
