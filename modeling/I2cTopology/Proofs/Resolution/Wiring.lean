import I2cTopology.Proofs.Bus.Access
import I2cTopology.Proofs.Resolution.Validity

/-!
# The wiring of a resolved document

The rows of the multiplexers of a document have ids of their own (`map_id_muxRows`) and addresses of their own on their
port, so they are well wired (`ControllersFit.wellWired`). A device that has been placed is on a port of a controller,
behind a wired segment there if it has a route, and away from the addresses of the multiplexers on its bus
(`DeviceDecl.PlacedAs.wiredOn`, `DeviceDecl.PlacedAs.offMuxes`).
-/

namespace I2cTopology

/-! ## Rows of multiplexers -/

theorem MuxDecl.map_id_rows (ref : PortRef) (start : Nat) (ms : List MuxDecl) :
    (MuxDecl.rows ref start ms).map (·.id) = (List.range' start ms.length).map fun row => ⟨UInt8.ofNat row⟩ := by
  induction ms generalizing start with
  | nil => rfl
  | cons m ms ih =>
    rw [MuxDecl.rows, List.map_cons, ih, List.length_cons, List.range'_succ, List.map_cons]
    rfl

/-- The id of a multiplexer is its row. -/
theorem map_id_muxRows (start : Nat) (ps : List PortSite) :
    (muxRows start ps).map (·.id) = (List.range' start (muxCount ps)).map fun row => ⟨UInt8.ofNat row⟩ := by
  induction ps generalizing start with
  | nil => rfl
  | cons p ps ih =>
    have hcount : muxCount (p :: ps) = p.decl.muxes.length + muxCount ps := rfl
    rw [muxRows, List.map_append, MuxDecl.map_id_rows, ih, hcount, ← List.map_append, List.range'_append_1]

/-- Each row is that of a multiplexer on some port. -/
theorem exists_of_mem_muxRows {ps : List PortSite} {start : Nat} {m : MuxDescriptor} (h : m ∈ muxRows start ps) :
    ∃ (slot : Nat) (p : PortSite) (i : Nat) (decl : MuxDecl), ps[slot]? = some p ∧ p.decl.muxes[i]? = some decl ∧
      m = decl.descriptor p.ref (start + muxCount (ps.take slot) + i) := by
  induction ps generalizing start with
  | nil => cases h
  | cons p ps ih =>
    rw [muxRows, List.mem_append] at h
    rcases h with h | h
    · obtain ⟨i, hi⟩ := List.getElem?_of_mem h
      rw [MuxDecl.getElem?_rows] at hi
      obtain ⟨decl, hdecl, rfl⟩ := Option.map_eq_some_iff.mp hi
      exact ⟨0, p, i, decl, rfl, hdecl, rfl⟩
    · obtain ⟨slot, q, i, decl, hq, hdecl, rfl⟩ := ih h
      refine ⟨slot + 1, q, i, decl, hq, hdecl, ?_⟩
      have hcount : muxCount ((p :: ps).take (slot + 1)) = p.decl.muxes.length + muxCount (ps.take slot) := rfl
      rw [hcount]
      congr 1
      omega

namespace ControllersFit

variable {cs : List ControllerDecl} (h : ControllersFit cs)
include h

theorem nodup_mux_ids : ((muxRows 0 (portSites cs)).map (·.id)).Nodup := by
  rw [map_id_muxRows]
  refine List.Nodup.map_on (fun i hi j hj hij => ?_) (List.nodup_range' ..)
  have hlimit := h.muxes_fit
  rw [List.mem_range'_1] at hi hj
  have hbytes := congrArg UInt8.toNat (MuxId.mk.inj hij)
  rw [UInt8.toNat_ofNat', UInt8.toNat_ofNat', Nat.mod_eq_of_lt (by omega), Nat.mod_eq_of_lt (by omega)] at hbytes
  exact hbytes

/-- A multiplexer on the bus of a port is one of the port's. -/
theorem exists_of_isOn {slot : Nat} {p : PortSite} (hp : (portSites cs)[slot]? = some p) {m : MuxDescriptor}
    (hm : m ∈ muxRows 0 (portSites cs)) (hon : m.isOn p.controller p.ref.index = true) :
    ∃ (i : Nat) (decl : MuxDecl), p.decl.muxes[i]? = some decl ∧
      m = decl.descriptor p.ref (muxCount ((portSites cs).take slot) + i) := by
  obtain ⟨slot', q, i, decl, hq, hdecl, rfl⟩ := exists_of_mem_muxRows hm
  obtain ⟨hc, hindex⟩ := MuxDescriptor.isOn_iff.mp hon
  obtain rfl := h.slot_eq_of_index_eq hq hp hc hindex
  obtain rfl := Option.some.inj (hq.symm.trans hp)
  exact ⟨i, decl, hdecl, by rw [Nat.zero_add]⟩

/-- The multiplexers of a document are well wired. -/
theorem wellWired : WellWired (muxRows 0 (portSites cs)) where
  ids := h.nodup_mux_ids
  addresses := by
    refine List.Nodup.map_on (fun m hm k hk heq => ?_) (List.Nodup.of_map _ h.nodup_mux_ids)
    obtain ⟨slot, p, i, decl, hp, hdecl, rfl⟩ := exists_of_mem_muxRows hm
    simp only [Prod.mk.injEq] at heq
    obtain ⟨hc, hport, haddress⟩ := heq
    obtain ⟨j, decl', hdecl', rfl⟩ := h.exists_of_isOn hp hk (MuxDescriptor.isOn_iff.mpr ⟨hc.symm, hport.symm⟩)
    -- on one port the address tells the multiplexer
    have hn := (h.ports p (List.mem_of_getElem? hp)).addresses
    have hlt : i < (p.decl.muxes.map (·.address)).length := by
      rw [List.length_map]
      exact (List.getElem?_eq_some_iff.mp hdecl).1
    obtain rfl : i = j := by
      refine (List.getElem?_inj hlt hn).mp ?_
      rw [List.getElem?_map, List.getElem?_map, hdecl, hdecl', Option.map_some, Option.map_some]
      exact congrArg some haddress
    obtain rfl := Option.some.inj (hdecl.symm.trans hdecl')
    rw [Nat.zero_add]
  segments m hm := by
    obtain ⟨slot, p, i, decl, hp, hdecl, rfl⟩ := exists_of_mem_muxRows hm
    exact ((h.ports p (List.mem_of_getElem? hp)).muxes decl (List.mem_of_getElem? hdecl)).segments.2

end ControllersFit

/-! ## Places of devices -/

namespace DeviceDecl.PlacedAs

variable {cs : List ControllerDecl} {d : DeviceDecl} {b : BoardDevice}

/-- A device sits on a port of a controller that has it. -/
theorem exists_site (h : d.PlacedAs cs b) : ∃ c ∈ cs, ∃ p ∈ c.sites, d.SitsOn cs p ∧
    b.place.controller = ⟨c.controller⟩ ∧ b.place.port = ⟨UInt8.ofNat p.position⟩ := by
  obtain ⟨slot, p, hp, hs, hfits, rfl⟩ := h
  obtain ⟨c, hc, hpc⟩ := mem_portSites.mp (List.mem_of_getElem? hp)
  exact ⟨c, hc, p, hpc, hs, ControllerDecl.controller_of_mem_sites hpc, rfl⟩

theorem controller_eq (h : d.PlacedAs cs b) (hf : ControllersFit cs) {c : ControllerDecl} {q : PortSite}
    (hq : q ∈ c.sites) (hsits : d.SitsOn cs q) : b.place.controller = ⟨c.controller⟩ := by
  obtain ⟨slot, p, hp, hs, hfits, rfl⟩ := h
  obtain ⟨slot', hq'⟩ := List.getElem?_of_mem hsits.mem
  obtain rfl := hf.slot_unique hp hq' hs hsits
  obtain rfl := Option.some.inj (hp.symm.trans hq')
  exact ControllerDecl.controller_of_mem_sites hq

/-- The route to a device leads over a wired segment on its bus. -/
theorem wiredOn (h : d.PlacedAs cs b) {route : Route} (hroute : b.place.route = some route) :
    route.WiredOn (muxRows 0 (portSites cs)) b.place.controller b.place.port := by
  obtain ⟨slot, p, hp, hs, hfits, rfl⟩ := h
  have hfit := hfits.route
  replace hroute : d.route (muxCount ((portSites cs).take slot)) = some route := hroute
  unfold DeviceDecl.RouteFits at hfit
  unfold DeviceDecl.route at hroute
  cases hmux : d.mux with
  | none => simp [hmux] at hroute
  | some number =>
    cases hsegment : d.segment with
    | none => simp [hmux, hsegment] at hroute
    | some segment =>
      simp only [hmux, hsegment, Option.some.injEq] at hfit hroute
      obtain ⟨-, m, hm, h1, hn⟩ := hfit
      subst hroute
      refine ⟨_, List.mem_of_getElem? (getElem?_muxRows hp hm), ?_, rfl, ?_⟩
      · exact MuxDescriptor.isOn_iff.mpr ⟨rfl, rfl⟩
      · exact MuxDescriptor.hasSegment_iff.mpr ⟨h1, hn⟩

/-- No multiplexer on the bus of a device has its address. -/
theorem offMuxes (h : d.PlacedAs cs b) (hf : ControllersFit cs) : b.place.OffMuxes (muxRows 0 (portSites cs)) := by
  obtain ⟨slot, p, hp, hs, hfits, rfl⟩ := h
  intro m hm hon
  obtain ⟨i, decl, hdecl, rfl⟩ := hf.exists_of_isOn hp hm hon
  exact hfits.free decl (List.mem_of_getElem? hdecl)

/-- Two devices are at one place exactly when they are declared at one. -/
theorem place_eq_iff (h : d.PlacedAs cs b) {e : DeviceDecl} {k : BoardDevice} (hk : e.PlacedAs cs k)
    (hf : ControllersFit cs) : b.place = k.place ↔ d.SharesPlace cs e := by
  obtain ⟨i, p, hp, hs, hfits, rfl⟩ := h
  obtain ⟨j, q, hq, hs', hfits', rfl⟩ := hk
  exact hf.placeOn_eq_iff hp hq hs hs' hfits.route hfits'.route

end DeviceDecl.PlacedAs

/-- Of two devices of a resolved document at one place the later one is an alias. -/
theorem Document.places_pairwise {d : Document} {t : Topology} (h : d.resolve = .ok t) :
    t.devices.Pairwise fun b k => b.place = k.place → k.isAlias = true := by
  have hcovers := covers_of_resolve h
  rw [List.pairwise_iff_getElem]
  intro i j hi hj hij hplace
  obtain ⟨e, he, hplaced⟩ := hcovers.exists_placedAs (List.getElem?_eq_getElem hi)
  obtain ⟨k, hk, hplaced'⟩ := hcovers.exists_placedAs (List.getElem?_eq_getElem hj)
  have hshares := (hplaced.place_eq_iff hplaced' (controllersFit_of_resolve h)).mp hplace
  obtain ⟨hi', rfl⟩ := List.getElem?_eq_some_iff.mp he
  obtain ⟨hj', rfl⟩ := List.getElem?_eq_some_iff.mp hk
  have hflag := (List.pairwise_iff_getElem.mp (fitsBeside_of_resolve h) i j hi' hj' hij).place hshares
  obtain ⟨slot, p, -, -, -, hrow⟩ := hplaced'
  rw [hrow]
  exact hflag

/-- Without aliases no two devices of a resolved document are at one place. -/
theorem Document.nodup_places {d : Document} {t : Topology} (h : d.resolve = .ok t)
    (halias : ∀ e ∈ d.devices, e.isAlias = false) : (t.devices.map (·.place)).Nodup := by
  rw [List.Nodup, List.pairwise_map]
  refine (places_pairwise h).imp_of_mem fun {b k} _ hk hflag hplace => ?_
  obtain ⟨row, hrow⟩ := List.getElem?_of_mem hk
  obtain ⟨e, he, slot, p, -, -, -, rfl⟩ := (covers_of_resolve h).exists_placedAs hrow
  have hno := halias e (List.mem_of_getElem? he)
  rw [show e.isAlias = true from hflag hplace] at hno
  cases hno

end I2cTopology
