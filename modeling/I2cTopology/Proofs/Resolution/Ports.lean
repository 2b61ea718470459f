import I2cTopology.Proofs.Resolution.Tables

/-!
# What the controllers of a document have to meet

Each step of the walk over controllers is a condition on the declaration at hand and those before it, and an update of
the tables: `addPin`, a pin set, a multiplexer, a port and a controller each have an `_eq_ok_iff`. Put together, the
walk over all controllers succeeds exactly when `ControllersFit`, and then it leaves the tables of `Tables`
(`foldlM_addController_eq_ok_iff`).
-/

namespace I2cTopology

/-! ## Pins -/

/-- Every pin of a set is below 16. -/
def PinSetDecl.Fits (set : PinSetDecl) : Prop := ∀ pin ∈ set.pins, pin < 16

theorem foldlM_addPin_eq_ok_iff (ref : PortRef) {pins : List UInt8} {mask mask' : BitVec 16} :
    pins.foldlM (addPin ref) mask = .ok mask' ↔
      (∀ pin ∈ pins, pin < 16) ∧ mask' = pins.foldl (fun mask pin => mask ||| 1#16 <<< pin.toNat) mask := by
  induction pins generalizing mask with
  | nil => simp [pure, Except.pure, eq_comm]
  | cons pin pins ih =>
    rw [List.foldlM_cons, bind_eq_ok_iff, List.forall_mem_cons, List.foldl_cons]
    have hstep : ∀ m, addPin ref mask pin = .ok m ↔ pin < 16 ∧ m = mask ||| 1#16 <<< pin.toNat := fun m => by
      simp [addPin, @eq_comm _ m]
      exact fun _ => Iff.rfl
    constructor
    · rintro ⟨m, hm, hrest⟩
      obtain ⟨hpin, rfl⟩ := (hstep m).mp hm
      obtain ⟨hpins, rfl⟩ := ih.mp hrest
      exact ⟨⟨hpin, hpins⟩, rfl⟩
    · rintro ⟨⟨hpin, hpins⟩, rfl⟩
      exact ⟨_, (hstep _).mpr ⟨hpin, rfl⟩, ih.mpr ⟨hpins, rfl⟩⟩

/-- A pin set is described exactly when its pins fit. -/
theorem PinSetDecl.resolve_eq_ok_iff (ref : PortRef) (set : PinSetDecl) (d : PinDescriptor) :
    set.resolve ref = .ok d ↔ set.Fits ∧ d = set.descriptor ref := by
  simp [resolve, foldlM_addPin_eq_ok_iff, @eq_comm _ d]
  exact Iff.rfl

/-! ## Multiplexers -/

/-- What a multiplexer has to meet by itself. -/
structure MuxDecl.Fits (m : MuxDecl) : Prop where
  address : 0x08 ≤ m.address ∧ m.address ≤ 0x77
  segments : 1 ≤ m.segmentCount ∧ m.segmentCount ≤ m.part.maxSegments
  nreset : ∀ set, m.nreset = some set → set.Fits

/-- An address is taken exactly when one of the multiplexers in the given rows has it. -/
theorem muxHasAddress_eq_ok {muxes ms : List MuxDescriptor} {rows : List Nat}
    (h : rows.map (muxes[·]?) = ms.map some) (address : UInt8) :
    muxHasAddress muxes rows address = .ok (ms.any (·.address == address)) := by
  have hrow : ∀ row ∈ rows, (muxRow muxes row).map (·.address == address) =
      .ok ((muxes[row]?).any (·.address == address)) := by
    intro row hr
    obtain ⟨m, -, hm⟩ := List.mem_map.mp (h ▸ List.mem_map_of_mem hr : muxes[row]? ∈ ms.map some)
    simp only [muxRow, ← hm]
    rfl
  have hany := congrArg (·.any fun m => m.any (·.address == address)) h
  simp only [List.any_map, Function.comp_def, Option.any_some] at hany
  rw [← hany]
  exact anyM_eq_ok hrow

/-- A multiplexer is added exactly when it fits, no other on its port has its address and its row fits a byte. -/
theorem PortMuxes.add_eq_ok_iff {ref : PortRef} {known t : PortMuxes} {ms : List MuxDescriptor}
    (h : known.rows.map (known.muxes[·]?) = ms.map some) (m : MuxDecl) :
    known.add ref m = .ok t ↔
      (m.Fits ∧ ms.any (·.address == m.address) = false ∧ known.muxes.length < 256) ∧
        t = ⟨known.muxes ++ [m.descriptor ref known.muxes.length], known.rows ++ [known.muxes.length]⟩ := by
  have hreset := fun r : Option PinDescriptor =>
    option_mapM_eq_ok_iff (PinSetDecl.resolve_eq_ok_iff ref) (o := m.nreset) (r := r)
  have hsegments : (m.segments.getD m.part.maxSegments != 0 &&
      decide (m.segments.getD m.part.maxSegments ≤ m.part.maxSegments)) = true ↔
      1 ≤ m.segmentCount ∧ m.segmentCount ≤ m.part.maxSegments := by
    rw [Bool.and_eq_true, decide_eq_true_eq, bne_iff_ne]
    refine and_congr_left fun _ => ?_
    show m.segmentCount ≠ 0 ↔ _
    rw [UInt8.le_iff_toNat_le, ne_eq, ← UInt8.toNat_inj]
    simp only [UInt8.toNat_zero, UInt8.toNat_one]
    omega
  simp [add, muxHasAddress_eq_ok h, hreset, hsegments, isAssignable_iff, -Bool.and_eq_true]
  constructor
  · rintro ⟨ha, hs, hfree, hrow, hn, rfl⟩
    exact ⟨⟨⟨ha, hs, hn⟩, hfree, hrow⟩, rfl⟩
  · rintro ⟨⟨⟨ha, hs, hn⟩, hfree, hrow⟩, rfl⟩
    exact ⟨ha, hs, hfree, hrow, hn, rfl⟩

/-- What a multiplexer of a port has to meet after those before it, the first of which is in row `start`. -/
def MuxDecl.FitsAfter (start : Nat) (before : List MuxDecl) (m : MuxDecl) : Prop :=
  m.Fits ∧ (∀ k ∈ before, k.address ≠ m.address) ∧ start + before.length < 256

/-- The walk over the multiplexers of a port. -/
theorem PortMuxes.tracks_add (ref : PortRef) (muxes : List MuxDescriptor) :
    Tracks (PortMuxes.add ref)
      (fun before known => known = ⟨muxes ++ MuxDecl.rows ref muxes.length before,
        List.range' muxes.length before.length⟩)
      (MuxDecl.FitsAfter muxes.length) := by
  refine Tracks.of_iff (fun known m =>
    ⟨known.muxes ++ [m.descriptor ref known.muxes.length], known.rows ++ [known.muxes.length]⟩) ?_ ?_
  · rintro before _ m t rfl
    have hrows := map_getElem?_range' muxes (MuxDecl.rows ref muxes.length before) []
    rw [MuxDecl.length_rows, List.append_nil] at hrows
    rw [PortMuxes.add_eq_ok_iff hrows, MuxDecl.any_address_rows, List.length_append, MuxDecl.length_rows]
    refine and_congr_left fun _ => and_congr_right fun _ => and_congr_left fun _ => ?_
    simp
  · rintro before _ m rfl -
    rw [List.length_append, MuxDecl.length_rows, MuxDecl.rows_append, List.append_assoc, List.length_append,
      List.range'_append_1.symm]
    rfl

/-- What a port has to meet by itself. -/
structure PortDecl.Fits (p : PortDecl) : Prop where
  pins : ∀ set ∈ p.pins, set.Fits
  muxes : ∀ m ∈ p.muxes, m.Fits
  addresses : (p.muxes.map (·.address)).Nodup

theorem eachAfter_muxFitsAfter {start : Nat} (h : start ≤ 256) {ms : List MuxDecl} :
    EachAfter (MuxDecl.FitsAfter start) [] ms ↔
      (∀ m ∈ ms, m.Fits) ∧ (ms.map (·.address)).Nodup ∧ start + ms.length ≤ 256 := by
  unfold MuxDecl.FitsAfter
  rw [eachAfter_and, eachAfter_and, eachAfter_const, eachAfter_nodup_map]
  refine and_congr_right fun _ => and_congr_right fun _ => ?_
  -- the row of each multiplexer fits a byte exactly when the number of them, a sum of ones, does
  have hsum : EachAfter (fun before m => ((before ++ [m]).map fun _ => 1).sum ≤ 256 - start) [] ms ↔
      (([] ++ ms).map fun _ => 1).sum ≤ 256 - start := eachAfter_sum_le (by simp)
  simp only [List.map_const', List.sum_replicate_nat, List.length_append, List.length_singleton, List.nil_append,
    Nat.mul_one] at hsum
  rw [show start + ms.length ≤ 256 ↔ ms.length ≤ 256 - start by omega, ← hsum]
  exact eachAfter_congr fun before m => by omega

/-! ## Ports -/

/-- What a port has to meet after those before it. -/
structure PortSite.FitsAfter (before : List PortSite) (p : PortSite) : Prop where
  position_lt : p.position < 256
  name_new : ∀ q ∈ before, ∀ name, q.decl.name = some name → p.decl.name ≠ some name
  decl : p.decl.Fits
  muxes_fit : muxCount (before ++ [p]) ≤ 256

/-- The tables with the row of one more port. -/
def Topology.withSite (t : Topology) (p : PortSite) : Topology :=
  { t with ports := t.ports ++ [p.row t.muxes.length]
           muxes := t.muxes ++ MuxDecl.rows p.ref t.muxes.length p.decl.muxes }

/-- The walk over the multiplexers of a port, as a condition and an update. -/
theorem foldlM_add_eq_ok_iff {ref : PortRef} {muxes : List MuxDescriptor} (h : muxes.length ≤ 256)
    {ms : List MuxDecl} {known : PortMuxes} : ms.foldlM (PortMuxes.add ref) ⟨muxes, []⟩ = .ok known ↔
      ((∀ m ∈ ms, m.Fits) ∧ (ms.map (·.address)).Nodup ∧ muxes.length + ms.length ≤ 256) ∧
        known = ⟨muxes ++ MuxDecl.rows ref muxes.length ms, List.range' muxes.length ms.length⟩ := by
  have hstart : (⟨muxes, []⟩ : PortMuxes) = ⟨muxes ++ MuxDecl.rows ref muxes.length [],
      List.range' muxes.length ([] : List MuxDecl).length⟩ := by simp [MuxDecl.rows]
  rw [← eachAfter_muxFitsAfter h]
  exact (PortMuxes.tracks_add ref muxes).foldlM_eq_ok_iff id hstart

/-- Adds the rows of a port, whose place and name have been checked. -/
def Topology.addRows (t : Topology) (p : PortSite) : Except TopologyError Topology := do
  let pins ← p.decl.pins.mapM (·.resolve p.ref)
  let known ← p.decl.muxes.foldlM (PortMuxes.add p.ref) ⟨t.muxes, []⟩
  let row : BoardPort :=
    { controller := p.controller, index := p.ref.index, key := p.key, name := p.decl.name,
      description := p.decl.description, pins, muxes := known.rows }
  .ok { t with ports := t.ports ++ [row], muxes := known.muxes }

theorem Topology.addRows_eq_ok_iff {t u : Topology} (h : t.muxes.length ≤ 256) (p : PortSite) :
    t.addRows p = .ok u ↔
      (p.decl.Fits ∧ t.muxes.length + p.decl.muxes.length ≤ 256) ∧ u = t.withSite p := by
  simp [addRows, mapM_eq_ok_iff (PinSetDecl.resolve_eq_ok_iff p.ref), foldlM_add_eq_ok_iff h]
  constructor
  · rintro ⟨hpins, ⟨hmuxes, haddresses, hfit⟩, rfl⟩
    exact ⟨⟨⟨hpins, hmuxes, haddresses⟩, hfit⟩, rfl⟩
  · rintro ⟨⟨⟨hpins, hmuxes, haddresses⟩, hfit⟩, rfl⟩
    exact ⟨hpins, ⟨hmuxes, haddresses, hfit⟩, rfl⟩

/-- Adds the port of a site to the tables. -/
def Topology.addSite (count : Nat) (t : Topology) (p : PortSite) : Except TopologyError Topology :=
  t.addPort p.controller count ((p.key, p.decl), p.position)

/-- The position of a port is checked first, then its name. -/
theorem Topology.addSite_eq (count : Nat) (t : Topology) (p : PortSite) :
    t.addSite count p = ((ensure (p.position < 256) (.tooMany .portsOfController count)) >>= fun _ =>
      match p.decl.name with
      | some name => ensure (t.ports.all (·.name != some name)) (.duplicateBusName name) >>= fun _ => t.addRows p
      | none => t.addRows p) := by
  obtain ⟨controller, position, key, name, description, pins, muxes⟩ := p
  cases name <;> rfl

/-- A port is added exactly when it fits after those before it. -/
theorem Topology.addSite_eq_ok_iff {count : Nat} {t u : Topology} {before : List PortSite}
    (hports : t.ports = portRows 0 before) (hmuxes : t.muxes = muxRows 0 before) (hcount : muxCount before ≤ 256)
    (p : PortSite) : t.addSite count p = .ok u ↔ p.FitsAfter before ∧ u = t.withSite p := by
  have hlength : t.muxes.length = muxCount before := by rw [hmuxes, length_muxRows]
  have hall : ∀ name, t.ports.all (·.name != some name) = true ↔ ∀ q ∈ before, q.decl.name ≠ some name := fun name => by
    have hmap := congrArg (·.all (· != some name)) (map_name_portRows 0 before)
    simp only [List.all_map, Function.comp_def] at hmap
    rw [hports, hmap, List.all_eq_true]
    simp
  have hfit : t.muxes.length + p.decl.muxes.length ≤ 256 ↔ muxCount (before ++ [p]) ≤ 256 := by
    rw [muxCount_append, hlength]
    rfl
  have hrows := addRows_eq_ok_iff (t := t) (u := u) (by omega) p
  rw [hfit] at hrows
  simp only [addSite_eq, bind_eq_ok_iff, ensure_eq_ok_iff, exists_const, decide_eq_true_eq]
  cases hname : p.decl.name with
  | none =>
    simp only [hrows]
    constructor
    · rintro ⟨hlt, ⟨hdecl, hmux⟩, rfl⟩
      exact ⟨⟨hlt, fun _ _ _ _ e => (by rw [hname] at e; cases e), hdecl, hmux⟩, rfl⟩
    · rintro ⟨h, rfl⟩
      exact ⟨h.position_lt, ⟨h.decl, h.muxes_fit⟩, rfl⟩
  | some name =>
    simp [hall, hrows]
    constructor
    · rintro ⟨hlt, hnew, ⟨hdecl, hmux⟩, rfl⟩
      refine ⟨⟨hlt, fun q hq other he e => ?_, hdecl, hmux⟩, rfl⟩
      obtain rfl := Option.some.inj (hname.symm.trans e)
      exact hnew q hq he
    · rintro ⟨h, rfl⟩
      exact ⟨h.position_lt, fun q hq e => h.name_new q hq name e hname, ⟨h.decl, h.muxes_fit⟩, rfl⟩

/-- The walk over some ports, which leaves everything but the tables of ports and multiplexers. -/
theorem Topology.tracks_addSite (count : Nat) (base : Topology) :
    Tracks (Topology.addSite count)
      (fun before t => t = { base with ports := portRows 0 before, muxes := muxRows 0 before } ∧ muxCount before ≤ 256)
      (fun before p => p.FitsAfter before) := by
  refine Tracks.of_iff withSite ?_ ?_
  · rintro before t p u ⟨rfl, hcount⟩
    exact addSite_eq_ok_iff rfl rfl hcount p
  · rintro before t p ⟨rfl, -⟩ hp
    refine ⟨?_, hp.muxes_fit⟩
    simp only [withSite, portRows_append, muxRows_append, length_muxRows, Nat.zero_add, portRows, muxRows,
      List.append_nil]

/-! ## Controllers -/

/-- The tables of some controllers. -/
def Topology.ofControllers (cs : List ControllerDecl) : Topology :=
  { controllers := controllerRows 0 cs, ports := portRows 0 (portSites cs), muxes := muxRows 0 (portSites cs) }

/-- What a controller has to meet after those before it. -/
def ControllerDecl.FitsAfter (before : List ControllerDecl) (c : ControllerDecl) : Prop :=
  (∀ b ∈ before, b.controller ≠ c.controller) ∧
    EachAfter (fun ps p => PortSite.FitsAfter ps p) (portSites before) c.sites

/-- A controller is added exactly when its number is new and its ports fit. -/
theorem Topology.addController_eq_ok_iff {before : List ControllerDecl} (hcount : muxCount (portSites before) ≤ 256)
    (c : ControllerDecl) (u : Topology) : (ofControllers before).addController c = .ok u ↔
      c.FitsAfter before ∧ u = ofControllers (before ++ [c]) := by
  have hstart : ofControllers before = { ofControllers before with
      ports := portRows 0 (portSites before), muxes := muxRows 0 (portSites before) } ∧
      muxCount (portSites before) ≤ 256 := ⟨rfl, hcount⟩
  have hwalk : ∀ t, c.sites.foldlM (addSite c.ports.size) (ofControllers before) = .ok t ↔
      EachAfter (fun ps p => PortSite.FitsAfter ps p) (portSites before) c.sites ∧
        t = { ofControllers before with
          ports := portRows 0 (portSites before ++ c.sites), muxes := muxRows 0 (portSites before ++ c.sites) } :=
    fun t => (tracks_addSite c.ports.size (ofControllers before)).foldlM_eq_ok_iff And.left hstart
  have hsites : c.ports.entries.zipIdx.foldlM (addPort ⟨c.controller⟩ c.ports.size) (ofControllers before) =
      c.sites.foldlM (addSite c.ports.size) (ofControllers before) := by
    rw [ControllerDecl.sites, List.foldlM_map]
    rfl
  have hnew : (ofControllers before).controllers.all (·.controller != ⟨c.controller⟩) = true ↔
      ∀ b ∈ before, b.controller ≠ c.controller := by
    have hmap := congrArg (·.all (· != Controller.mk c.controller)) (map_controller_controllerRows 0 before)
    simp only [List.all_map, Function.comp_def] at hmap
    rw [show (ofControllers before).controllers = controllerRows 0 before from rfl, hmap, List.all_eq_true]
    simp
  have htables : ofControllers (before ++ [c]) =
      { controllers := controllerRows 0 before ++ [c.row (ofControllers before).ports.length]
        ports := portRows 0 (portSites before ++ c.sites), muxes := muxRows 0 (portSites before ++ c.sites) } := by
    have hall : portSites (before ++ [c]) = portSites before ++ c.sites := by
      simp [portSites]
    simp only [ofControllers, controllerRows_append, hall, length_portRows, Nat.zero_add]
    rfl
  simp only [addController, bind_eq_ok_iff, ensure_eq_ok_iff, exists_const, hnew, hsites, hwalk, Except.ok.injEq,
    ControllerDecl.FitsAfter, and_assoc, htables]
  refine and_congr_right fun _ => ?_
  constructor
  · rintro ⟨_, hports, rfl, rfl⟩
    exact ⟨hports, rfl⟩
  · rintro ⟨hports, rfl⟩
    exact ⟨_, hports, rfl, rfl⟩

/-- What the controllers of a document have to meet. -/
structure ControllersFit (cs : List ControllerDecl) : Prop where
  numbers : (cs.map (·.controller)).Nodup
  ports_fit : ∀ c ∈ cs, c.ports.size ≤ 256
  bus_names : ((portSites cs).filterMap (·.decl.name)).Nodup
  ports : ∀ p ∈ portSites cs, p.decl.Fits
  muxes_fit : muxCount (portSites cs) ≤ 256

theorem eachAfter_portFitsAfter {ps : List PortSite} : EachAfter (fun before p => PortSite.FitsAfter before p) [] ps ↔
    (∀ p ∈ ps, p.position < 256) ∧ (ps.filterMap (·.decl.name)).Nodup ∧ (∀ p ∈ ps, p.decl.Fits) ∧
      muxCount ps ≤ 256 := by
  have hparts : ∀ before p, PortSite.FitsAfter before p ↔ p.position < 256 ∧
      (∀ q ∈ before, ∀ name, q.decl.name = some name → p.decl.name ≠ some name) ∧ p.decl.Fits ∧
        muxCount (before ++ [p]) ≤ 256 := fun before p =>
    ⟨fun h => ⟨h.position_lt, h.name_new, h.decl, h.muxes_fit⟩, fun ⟨h1, h2, h3, h4⟩ => ⟨h1, h2, h3, h4⟩⟩
  rw [eachAfter_congr hparts, eachAfter_and, eachAfter_and, eachAfter_and, eachAfter_const, eachAfter_const,
    eachAfter_pairwise]
  have hnames : (ps.filterMap (·.decl.name)).Nodup ↔
      ps.Pairwise fun q p => ∀ name, q.decl.name = some name → p.decl.name ≠ some name := by
    rw [List.Nodup, List.pairwise_filterMap]
    refine List.Pairwise.iff fun q p => ?_
    constructor
    · intro h name hq hp
      exact h name hq name hp rfl
    · rintro h name hq other hp rfl
      exact h name hq hp
  rw [hnames]
  have hsum : EachAfter (fun before p => muxCount (before ++ [p]) ≤ 256) [] ps ↔ muxCount ps ≤ 256 :=
    eachAfter_sum_le (Nat.zero_le _)
  exact and_congr_right fun _ => and_congr_right fun _ => and_congr_right fun _ => hsum

theorem ControllerDecl.position_lt_iff (c : ControllerDecl) (n : Nat) :
    (∀ p ∈ c.sites, p.position < n) ↔ c.ports.size ≤ n := by
  have hpositions : c.sites.map (·.position) = List.range c.ports.size := by
    rw [sites, List.map_map]
    show c.ports.entries.zipIdx.map Prod.snd = _
    rw [List.zipIdx_map_snd, List.range_eq_range']
    rfl
  rw [← List.forall_mem_map (P := (· < n)), hpositions]
  simp only [List.mem_range]
  constructor
  · intro h
    by_contra hlt
    exact absurd (h n (by omega)) (Nat.lt_irrefl n)
  · intro h i hi
    omega

/-- Each controller fits after those before it exactly when they all fit. -/
theorem eachAfter_controllerFitsAfter {cs : List ControllerDecl} :
    EachAfter (fun before c => ControllerDecl.FitsAfter before c) [] cs ↔ ControllersFit cs := by
  have hsites : EachAfter (fun before (c : ControllerDecl) =>
      EachAfter (fun ps p => PortSite.FitsAfter ps p) (portSites before) c.sites) [] cs ↔
      EachAfter (fun ps p => PortSite.FitsAfter ps p) [] (portSites cs) := eachAfter_flatMap
  have hpositions : (∀ p ∈ portSites cs, p.position < 256) ↔ ∀ c ∈ cs, c.ports.size ≤ 256 := by
    simp only [mem_portSites, ← ControllerDecl.position_lt_iff]
    exact ⟨fun h c hc p hp => h p ⟨c, hc, hp⟩, fun h p ⟨c, hc, hp⟩ => h c hc p hp⟩
  unfold ControllerDecl.FitsAfter
  rw [eachAfter_and, eachAfter_nodup_map, hsites, eachAfter_portFitsAfter, hpositions]
  exact ⟨fun ⟨h1, h2, h3, h4, h5⟩ => ⟨h1, h2, h3, h4, h5⟩, fun h =>
    ⟨h.numbers, h.ports_fit, h.bus_names, h.ports, h.muxes_fit⟩⟩

/-- The walk over the controllers of a document. -/
theorem Topology.tracks_addController :
    Tracks Topology.addController (fun before t => t = ofControllers before ∧ muxCount (portSites before) ≤ 256)
      (fun before c => c.FitsAfter before) where
  succeeds := by
    rintro before _ c ⟨rfl, hcount⟩ hc
    exact ⟨_, (addController_eq_ok_iff hcount c _).mpr ⟨hc, rfl⟩⟩
  good_of_ok := by
    rintro before _ c t ⟨rfl, hcount⟩ ht
    exact ((addController_eq_ok_iff hcount c t).mp ht).1
  keeps := by
    rintro before _ c t ⟨rfl, hcount⟩ ht
    obtain ⟨hc, rfl⟩ := (addController_eq_ok_iff hcount c t).mp ht
    refine ⟨rfl, ?_⟩
    have hsum := (eachAfter_sum_le hcount).mp (hc.2.imp fun _ _ hp => hp.muxes_fit)
    rw [portSites_append, show portSites [c] = c.sites from List.append_nil _]
    exact hsum

/-- The walk over the controllers of a document succeeds exactly when they fit, and leaves their tables. -/
theorem foldlM_addController_eq_ok_iff {cs : List ControllerDecl} {t : Topology} :
    cs.foldlM Topology.addController {} = .ok t ↔ ControllersFit cs ∧ t = Topology.ofControllers cs := by
  have hstart : ({} : Topology) = Topology.ofControllers [] ∧ muxCount (portSites []) ≤ 256 := ⟨rfl, Nat.zero_le _⟩
  rw [← eachAfter_controllerFitsAfter]
  exact Topology.tracks_addController.foldlM_eq_ok_iff And.left hstart

end I2cTopology
