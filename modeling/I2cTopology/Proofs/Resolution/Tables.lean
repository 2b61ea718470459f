import I2cTopology.Topology.Ports
import I2cTopology.Proofs.Resolution.Walk

/-!
# The tables of controllers, ports and multiplexers

A `PortSite` is a port of a document with its place among the others. The tables that controllers, ports and
multiplexers of a document come to are lists of rows, one for each of them in the order of the document: `portRows`,
`muxRows` and `controllerRows`. A row that refers to another table holds the rows that it refers to as numbers; what is
found there is what was declared (`map_getElem?_muxRows`, `getElem?_portRows`).
-/

namespace I2cTopology

/-! ## Sites -/

/-- A port of a document with its place: the controller, the position there and the key. -/
structure PortSite where
  controller : Controller
  position : Nat
  key : String
  decl : PortDecl

/-- What a port is known by while its declaration is read. -/
def PortSite.ref (p : PortSite) : PortRef := ⟨p.controller, ⟨UInt8.ofNat p.position⟩, p.key⟩

/-- The ports of a controller, in order. -/
def ControllerDecl.sites (c : ControllerDecl) : List PortSite :=
  c.ports.entries.zipIdx.map fun ((key, decl), position) => ⟨⟨c.controller⟩, position, key, decl⟩

/-- The ports of all controllers, in order. -/
def portSites (cs : List ControllerDecl) : List PortSite := cs.flatMap (·.sites)

/-- The number of multiplexers on some ports. -/
def muxCount (ps : List PortSite) : Nat := (ps.map (·.decl.muxes.length)).sum

theorem ControllerDecl.length_sites (c : ControllerDecl) : c.sites.length = c.ports.size := by
  simp [sites, OrderedMap.size]

theorem ControllerDecl.position_of_getElem? {c : ControllerDecl} {i : Nat} {p : PortSite} (h : c.sites[i]? = some p) :
    p.position = i := by
  rw [sites, List.getElem?_map, List.getElem?_zipIdx] at h
  obtain ⟨x, hx, rfl⟩ := Option.map_eq_some_iff.mp h
  obtain ⟨_, -, rfl⟩ := Option.map_eq_some_iff.mp hx
  exact Nat.zero_add i

theorem ControllerDecl.map_key_sites (c : ControllerDecl) : c.sites.map (·.key) = c.ports.keys := by
  have hfst := congrArg (·.map Prod.fst) (List.zipIdx_map_fst 0 c.ports.entries)
  simp only [List.map_map] at hfst
  rw [sites, List.map_map]
  exact hfst

theorem ControllerDecl.controller_of_mem_sites {c : ControllerDecl} {p : PortSite} (h : p ∈ c.sites) :
    p.controller = ⟨c.controller⟩ := by
  obtain ⟨_, -, rfl⟩ := List.mem_map.mp h
  rfl

theorem portSites_append (cs ds : List ControllerDecl) : portSites (cs ++ ds) = portSites cs ++ portSites ds :=
  List.flatMap_append

theorem mem_portSites {cs : List ControllerDecl} {p : PortSite} : p ∈ portSites cs ↔ ∃ c ∈ cs, p ∈ c.sites :=
  List.mem_flatMap

theorem muxCount_append (ps qs : List PortSite) : muxCount (ps ++ qs) = muxCount ps + muxCount qs := by
  simp [muxCount]

/-- The multiplexers of a port are counted among those of all ports. -/
theorem muxCount_take_add_le {ps : List PortSite} {slot : Nat} {p : PortSite} (h : ps[slot]? = some p) :
    muxCount (ps.take slot) + p.decl.muxes.length ≤ muxCount ps := by
  obtain ⟨hlt, rfl⟩ := List.getElem?_eq_some_iff.mp h
  have hsplit : muxCount ps = muxCount (ps.take slot) + muxCount (ps[slot] :: ps.drop (slot + 1)) := by
    rw [← muxCount_append, List.getElem_cons_drop, List.take_append_drop]
  rw [hsplit]
  simp only [muxCount, List.map_cons, List.sum_cons]
  omega

/-! ## Rows -/

/-- The pins of a set, as they are described. -/
def PinSetDecl.descriptor (ref : PortRef) (set : PinSetDecl) : PinDescriptor :=
  ⟨ref.controller, ref.index, set.gpioPort.getD ref.key,
    set.pins.foldl (fun mask pin => mask ||| 1#16 <<< pin.toNat) 0, set.function⟩

/-- The number of segments of a declared multiplexer. -/
def MuxDecl.segmentCount (m : MuxDecl) : UInt8 := m.segments.getD m.part.maxSegments

/-- A multiplexer as it is described in row `row`. -/
def MuxDecl.descriptor (ref : PortRef) (row : Nat) (m : MuxDecl) : MuxDescriptor :=
  { id := ⟨UInt8.ofNat row⟩, controller := ref.controller, port := ref.index, part := m.part, address := m.address,
    segments := m.segmentCount, nreset := m.nreset.map (·.descriptor ref) }

/-- The rows of multiplexers on one port, from row `start` on. -/
def MuxDecl.rows (ref : PortRef) (start : Nat) : List MuxDecl → List MuxDescriptor
  | [] => []
  | m :: ms => m.descriptor ref start :: rows ref (start + 1) ms

/-- The row of a port whose multiplexers are in rows from `start` on. -/
def PortSite.row (p : PortSite) (start : Nat) : BoardPort :=
  { controller := p.controller, index := p.ref.index, key := p.key, name := p.decl.name,
    description := p.decl.description, pins := p.decl.pins.map (·.descriptor p.ref),
    muxes := List.range' start p.decl.muxes.length }

/-- The rows of the multiplexers on some ports, from row `start` on. -/
def muxRows (start : Nat) : List PortSite → List MuxDescriptor
  | [] => []
  | p :: ps => MuxDecl.rows p.ref start p.decl.muxes ++ muxRows (start + p.decl.muxes.length) ps

/-- The rows of some ports whose multiplexers are in rows from `start` on. -/
def portRows (start : Nat) : List PortSite → List BoardPort
  | [] => []
  | p :: ps => p.row start :: portRows (start + p.decl.muxes.length) ps

/-- The row of a controller whose ports are in rows from `start` on. -/
def ControllerDecl.row (c : ControllerDecl) (start : Nat) : BoardController :=
  { controller := ⟨c.controller⟩, mode := if c.target then .target else .initiator,
    ports := List.range' start c.ports.size }

/-- The rows of some controllers whose ports are in rows from `start` on. -/
def controllerRows (start : Nat) : List ControllerDecl → List BoardController
  | [] => []
  | c :: cs => c.row start :: controllerRows (start + c.ports.size) cs

namespace MuxDecl

theorem length_rows (ref : PortRef) (start : Nat) (ms : List MuxDecl) : (rows ref start ms).length = ms.length := by
  induction ms generalizing start with
  | nil => rfl
  | cons m ms ih => rw [rows, List.length_cons, List.length_cons, ih]

theorem rows_append (ref : PortRef) (start : Nat) (ms ns : List MuxDecl) :
    rows ref start (ms ++ ns) = rows ref start ms ++ rows ref (start + ms.length) ns := by
  induction ms generalizing start with
  | nil => rfl
  | cons m ms ih =>
    rw [List.cons_append, rows, rows, ih, List.length_cons, List.cons_append, Nat.add_assoc, Nat.add_comm 1]

theorem any_address_rows (ref : PortRef) (address : UInt8) (start : Nat) (ms : List MuxDecl) :
    (rows ref start ms).any (·.address == address) = ms.any (·.address == address) := by
  induction ms generalizing start with
  | nil => rfl
  | cons m ms ih =>
    rw [rows, List.any_cons, List.any_cons, ih]
    rfl

theorem getElem?_rows (ref : PortRef) (start : Nat) (ms : List MuxDecl) (i : Nat) :
    (rows ref start ms)[i]? = ms[i]?.map (·.descriptor ref (start + i)) := by
  induction ms generalizing start i with
  | nil => rfl
  | cons m ms ih =>
    cases i with
    | zero => rfl
    | succ i => rw [rows, List.getElem?_cons_succ, List.getElem?_cons_succ, ih, Nat.add_assoc, Nat.add_comm 1]

end MuxDecl

theorem muxRows_append (start : Nat) (ps qs : List PortSite) :
    muxRows start (ps ++ qs) = muxRows start ps ++ muxRows (start + muxCount ps) qs := by
  induction ps generalizing start with
  | nil => simp [muxRows, muxCount]
  | cons p ps ih =>
    rw [List.cons_append, muxRows, muxRows, ih, List.append_assoc, Nat.add_assoc]
    rfl

theorem length_muxRows (start : Nat) (ps : List PortSite) : (muxRows start ps).length = muxCount ps := by
  induction ps generalizing start with
  | nil => rfl
  | cons p ps ih =>
    rw [muxRows, List.length_append, MuxDecl.length_rows, ih]
    rfl

theorem portRows_append (start : Nat) (ps qs : List PortSite) :
    portRows start (ps ++ qs) = portRows start ps ++ portRows (start + muxCount ps) qs := by
  induction ps generalizing start with
  | nil => simp [portRows, muxCount]
  | cons p ps ih =>
    rw [List.cons_append, portRows, portRows, ih, List.cons_append, Nat.add_assoc]
    rfl

theorem length_portRows (start : Nat) (ps : List PortSite) : (portRows start ps).length = ps.length := by
  induction ps generalizing start with
  | nil => rfl
  | cons p ps ih => rw [portRows, List.length_cons, List.length_cons, ih]

/-- The row of a port is the one that its site comes to, after the multiplexers of the ports before it. -/
theorem getElem?_portRows (start : Nat) (ps : List PortSite) (slot : Nat) :
    (portRows start ps)[slot]? = ps[slot]?.map (·.row (start + muxCount (ps.take slot))) := by
  induction ps generalizing start slot with
  | nil => rfl
  | cons p ps ih =>
    cases slot with
    | zero => rfl
    | succ slot =>
      rw [portRows, List.getElem?_cons_succ, List.getElem?_cons_succ, ih, List.take_succ_cons, Nat.add_assoc]
      rfl

theorem map_name_portRows (start : Nat) (ps : List PortSite) :
    (portRows start ps).map (·.name) = ps.map (·.decl.name) := by
  induction ps generalizing start with
  | nil => rfl
  | cons p ps ih =>
    rw [portRows, List.map_cons, List.map_cons, ih]
    rfl

theorem controllerRows_append (start : Nat) (cs ds : List ControllerDecl) :
    controllerRows start (cs ++ ds) = controllerRows start cs ++ controllerRows (start + (portSites cs).length) ds := by
  induction cs generalizing start with
  | nil => rfl
  | cons c cs ih =>
    rw [List.cons_append, controllerRows, controllerRows, ih, List.cons_append,
      show portSites (c :: cs) = c.sites ++ portSites cs from rfl, List.length_append, c.length_sites, Nat.add_assoc]

theorem map_controller_controllerRows (start : Nat) (cs : List ControllerDecl) :
    (controllerRows start cs).map (·.controller) = cs.map fun c => ⟨c.controller⟩ := by
  induction cs generalizing start with
  | nil => rfl
  | cons c cs ih =>
    rw [controllerRows, List.map_cons, List.map_cons, ih]
    rfl

/-- Consecutive rows of a table. -/
theorem map_getElem?_range' {α : Type} (before rows after : List α) :
    (List.range' before.length rows.length).map ((before ++ rows ++ after)[·]?) = rows.map some := by
  induction rows generalizing before with
  | nil => rfl
  | cons r rows ih =>
    have hrest := ih (before ++ [r])
    rw [List.length_append, List.length_singleton, List.append_assoc before, List.singleton_append] at hrest
    rw [List.length_cons, List.range'_succ, List.map_cons, List.map_cons, hrest]
    simp

/-- What the rows that a port refers to hold are its multiplexers. -/
theorem map_getElem?_muxRows {ps : List PortSite} {slot : Nat} {p : PortSite} (h : ps[slot]? = some p) :
    (List.range' (muxCount (ps.take slot)) p.decl.muxes.length).map ((muxRows 0 ps)[·]?) =
      (MuxDecl.rows p.ref (muxCount (ps.take slot)) p.decl.muxes).map some := by
  obtain ⟨hlt, rfl⟩ := List.getElem?_eq_some_iff.mp h
  have hsplit : ps = ps.take slot ++ ps[slot] :: ps.drop (slot + 1) := by
    rw [List.getElem_cons_drop, List.take_append_drop]
  have hrows := map_getElem?_range' (muxRows 0 (ps.take slot))
    (MuxDecl.rows ps[slot].ref (muxCount (ps.take slot)) ps[slot].decl.muxes)
    (muxRows (muxCount (ps.take slot) + ps[slot].decl.muxes.length) (ps.drop (slot + 1)))
  rw [length_muxRows, MuxDecl.length_rows] at hrows
  have htable := congrArg (muxRows 0) hsplit
  rw [muxRows_append, Nat.zero_add, muxRows, ← List.append_assoc] at htable
  rw [htable]
  exact hrows

end I2cTopology
