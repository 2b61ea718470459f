import I2cTopology.Proofs.Artifact.Handles
import I2cTopology.Proofs.Bus.Recovery

/-!
# Devices at one address

A device answers at its address if it needs no route or its route is connected (`DevicePlace.Answers`). Among the
devices of a resolved document without aliases, two answer at one address only if one of them needs no route and the
route of the other is connected (`DevicePlace.eq_of_answers`, `Document.nodup_places`), which resolution does not rule
out (`FrontAndSide.confused`). Where it is not so, the device of a handle answers alone, after any run of events on the
board of the document (`Document.answered_unless_rivalled`).
-/

namespace I2cTopology

/-! ## Who answers -/

/-- A device at a place answers at an address of a bus while just the given route is connected there, if any. -/
def DevicePlace.Answers (c : Controller) (p : PortIndex) (connected : Option Route) (address : UInt8)
    (q : DevicePlace) : Prop :=
  q.controller = c ∧ q.port = p ∧ q.address = address ∧ (q.route = none ∨ q.route = connected)

/-- Two devices that answer at one address, both with a route or both without one, are at one place. -/
theorem DevicePlace.eq_of_answers {c : Controller} {p : PortIndex} {connected : Option Route} {address : UInt8}
    {q k : DevicePlace} (hq : q.Answers c p connected address) (hk : k.Answers c p connected address)
    (h : q.route = none ↔ k.route = none) : q = k := by
  obtain ⟨rfl, rfl, rfl, hroute⟩ := hq
  obtain ⟨hc, hp, ha, hroute'⟩ := hk
  have hsame : q.route = k.route := by
    rcases hroute with hnone | hconnected
    · rw [hnone, h.mp hnone]
    · rcases hroute' with hnone' | hconnected'
      · rw [h.mpr hnone', hnone']
      · rw [hconnected, hconnected']
  obtain ⟨_, _, _, _⟩ := q
  obtain ⟨_, _, _, _⟩ := k
  simp_all

/-- What can be connected on a bus: nothing, or a wired segment of one multiplexer there. -/
def Topology.CanConnect (t : Topology) (c : Controller) (p : PortIndex) : Option Route → Prop
  | none => True
  | some route => route.WiredOn t.muxes c p

/-- Whatever is connected on a bus, no two devices there answer at one address. -/
def Topology.Unconfused (t : Topology) : Prop :=
  ∀ (c : Controller) (p : PortIndex) (connected : Option Route) (address : UInt8), t.CanConnect c p connected →
    ∀ (i j : Nat) (b k : BoardDevice), t.devices[i]? = some b → t.devices[j]? = some k →
      b.place.Answers c p connected address → k.place.Answers c p connected address → i = j

/-! ## The board of a document -/

/-- A board with the multiplexers and devices of the tables, on which nothing is connected yet. -/
structure BoardTables.Board (tables : BoardTables) (board : SimBoard) : Prop where
  carries : board.Carries tables.muxes
  clear : ∀ id, board.selected id = none
  places_eq : board.devices.map (·.toDevicePlace) = tables.devices

/-- A server of the tables over a board has got into a state by events, whose operations address no multiplexer. -/
def BoardTables.GetsInto (tables : BoardTables) (board : SimBoard) (s : SharedServer SimBoard) : Prop :=
  ∃ events : List Event, (∀ e ∈ events, e.OffMuxes tables.muxes) ∧
    s = ((⟨tables.server board, false⟩ : SharedServer SimBoard).run events).2

/-- What the tables say of the board. -/
def BoardTables.layout (tables : BoardTables) : Layout := ⟨tables.controllers, tables.muxes, tables.devices⟩

theorem BoardTables.BuiltFrom.places_eq {tables : BoardTables} {t : Topology} (h : tables.BuiltFrom t) :
    tables.layout.places = t.devices.map (·.place) :=
  h.devices_eq

theorem BoardTables.Board.guards {tables : BoardTables} {board : SimBoard} (h : tables.Board board)
    (hw : WellWired tables.muxes) {s : SharedServer SimBoard} (hs : tables.GetsInto board s) :
    tables.layout.Guards s := by
  obtain ⟨events, hevents, rfl⟩ := hs
  refine SharedServer.guards_run (l := tables.layout) hw hevents ⟨?_, fun _ => ?_⟩
  · exact Layout.holds_new (l := tables.layout) h.carries h.places_eq
  · exact Server.beliefsRight_new h.clear

namespace BoardTables.BuiltFrom

variable {tables : BoardTables} {t : Topology} {cs : List ControllerDecl} {ds : List DeviceDecl} {d : DeviceDecl}
  {b : BoardDevice} (h : tables.BuiltFrom t) (ht : t.Covers cs ds) (hf : ControllersFit cs)
  (hd : d.PlacedAs cs b)
include h ht hf hd

/-- Whatever is on the bus of a device that sits on no target sits on no target. -/
theorem not_onTarget_of_controller_eq (hon : ¬d.OnTarget cs) {e : DeviceDecl} {k : BoardDevice}
    (he : e.PlacedAs cs k) (hc : k.place.controller = b.place.controller) : ¬e.OnTarget cs := by
  intro hetarget
  obtain ⟨c, hfind, -⟩ := h.on_initiator ht.declares hf hd hon
  have hnone := h.find?_of_onTarget ht.declares hf he hetarget
  rw [hc, hfind] at hnone
  cases hnone

theorem soundAt (hb : b ∈ t.devices) (hn : (t.devices.map (·.place)).Nodup) (hon : ¬d.OnTarget cs) :
    tables.layout.SoundAt b.place where
  mem := by
    rw [h.places_eq]
    exact List.mem_map_of_mem hb
  wired := h.wellWired ht.declares hf
  places_distinct := by
    rw [h.places_eq]
    exact hn
  on_initiator := h.on_initiator ht.declares hf hd hon
  off_muxes := by
    refine h.offMuxes ?_
    rw [ht.declares.muxes_eq]
    exact hd.offMuxes hf
  routes_wired k hk hmeets route hroute := by
    rw [h.places_eq] at hk
    obtain ⟨other, hother, rfl⟩ := List.mem_map.mp hk
    obtain ⟨j, hj⟩ := List.getElem?_of_mem hother
    obtain ⟨e, -, he⟩ := ht.exists_placedAs hj
    obtain ⟨hc, hp, -⟩ := hmeets
    have hwired := h.route_wired ht.declares hf he (h.not_onTarget_of_controller_eq ht hf hd hon he hc) hroute
    rw [hc, hp] at hwired
    exact hwired

end BoardTables.BuiltFrom

/-! ## Operations through handles -/

namespace SharedServer

/-- An operation is answered by the device in a row of the board, and no other device takes part. -/
def AnsweredBy (s : SharedServer SimBoard) (row : Nat) (handle : DeviceHandle) (operation : Operation) : Prop :=
  ∃ d, s.server.wire.devices[row]? = some d ∧ d.toDevicePlace = handle.toDevicePlace ∧
    (s.react (.operate handle.owner handle operation)).1 = .replied handle.owner handle operation
      (operation.seen (.answer (d.exchange operation.op operation.bytes operation.buffer).1)) ∧
    (s.react (.operate handle.owner handle operation)).2.server.wire.devices =
      s.server.wire.devices.set row (d.exchange operation.op operation.bytes operation.buffer).2

/-- An operation is refused, since the server does not know the controller, and nothing is put on the wire. -/
def TurnedAway (s : SharedServer SimBoard) (handle : DeviceHandle) (operation : Operation) : Prop :=
  (s.react (.operate handle.owner handle operation)).1 =
      .replied handle.owner handle operation ⟨.error (.badController handle.controller), operation.buffer⟩ ∧
    (s.react (.operate handle.owner handle operation)).2.server.wire = s.server.wire

/-- Without faults, an operation on a device that has no rival is answered by it. -/
theorem answeredBy {l : Layout} {s : SharedServer SimBoard} (h : l.Guards s) {handle : DeviceHandle}
    (hl : l.SoundAt handle.toDevicePlace)
    (halone : ∀ k ∈ l.places, ¬k.Rivals s.server.wire.selected handle.toDevicePlace)
    (hfaults : s.server.wire.faults = []) {row : Nat} (hrow : l.places[row]? = some handle.toDevicePlace)
    (operation : Operation) : s.AnsweredBy row handle operation := by
  obtain ⟨hholds, hright, hwire⟩ := h.lock
  rw [← h.holds.places_eq, List.getElem?_map] at hrow
  obtain ⟨d, hd, hplace⟩ := Option.map_eq_some_iff.mp hrow
  refine ⟨d, hd, hplace, ?_⟩
  have hended := hholds.ended_handle (r := handle.request operation.op operation.bytes) hl (hwire ▸ halone) hright
    (hwire ▸ hd) hplace operation.buffer
  rw [s.react_operate_owner]
  rcases hended with ⟨hreply, hdevices, -⟩ | ⟨error, fault, address, -, -, -, hperm⟩
  · rw [← hwire, serve, hreply]
    exact ⟨rfl, hdevices⟩
  · rw [hwire, hfaults] at hperm
    cases hperm.nil_eq

theorem turnedAway {s : SharedServer SimBoard} (hwire : (Client.lock s).1.wire = s.server.wire)
    {handle : DeviceHandle} {operation : Operation}
    (hcheck : (Client.lock s).1.check (handle.request operation.op operation.bytes) =
      .error (.badController handle.controller)) : s.TurnedAway handle operation := by
  rw [TurnedAway, s.react_operate_owner, serve, Server.handle_of_check_error hcheck, operation.seen_error]
  exact ⟨rfl, hwire⟩

end SharedServer

namespace Document

variable {d : Document} {t : Topology}

/-- Two rows of devices that answer at one address, both with a route or both without one, are the same. -/
theorem row_eq_iff_of_answers (hresolve : d.resolve = .ok t) (halias : ∀ e ∈ d.devices, e.isAlias = false)
    {c : Controller} {p : PortIndex} {connected : Option Route} {address : UInt8} {i j : Nat} {b k : BoardDevice}
    (hi : t.devices[i]? = some b) (hj : t.devices[j]? = some k) (hb : b.place.Answers c p connected address)
    (hk : k.place.Answers c p connected address) : i = j ↔ (b.place.route = none ↔ k.place.route = none) := by
  constructor
  · rintro rfl
    rw [Option.some.inj (hi.symm.trans hj)]
  · intro hsame
    have hplace := DevicePlace.eq_of_answers hb hk hsame
    have hlt : i < (t.devices.map (·.place)).length := by
      rw [List.length_map]
      exact (List.getElem?_eq_some_iff.mp hi).1
    refine (List.getElem?_inj hlt (nodup_places hresolve halias)).mp ?_
    rw [List.getElem?_map, List.getElem?_map, hi, hj, Option.map_some, Option.map_some, hplace]

/-- What an operation without faults through the handle on a device comes to. -/
structure Operated (d : Document) (t : Topology) (s : SharedServer SimBoard) (i : Nat) (device : DeviceDecl)
    (handle : DeviceHandle) (operation : Operation) : Prop where
  on_target : device.OnTarget d.controllers → s.TurnedAway handle operation
  alone : ¬device.OnTarget d.controllers →
    (∀ k ∈ t.devices, ¬k.place.Rivals s.server.wire.selected handle.toDevicePlace) → s.AnsweredBy i handle operation

/-- **Confusion needs a device without a route.** Two devices of a resolved document without aliases answer at one
address only if exactly one of them needs no route. On its board, an operation without faults through a generated
handle is answered by the device of the handle alone, unless such a rival answers along with it. -/
theorem answered_unless_rivalled (hresolve : d.resolve = .ok t) (halias : ∀ e ∈ d.devices, e.isAlias = false) :
    (∀ (c : Controller) (p : PortIndex) (connected : Option Route) (address : UInt8) (i j : Nat) (b k : BoardDevice),
        t.devices[i]? = some b → t.devices[j]? = some k → b.place.Answers c p connected address →
        k.place.Answers c p connected address → (i = j ↔ (b.place.route = none ↔ k.place.route = none))) ∧
      ∀ (tables : BoardTables) (board : SimBoard) (s : SharedServer SimBoard), tables.GeneratedFrom t →
        tables.Board board → tables.GetsInto board s → s.server.wire.faults = [] →
        ∀ (owner : TaskId) (i : Nat) (handle : DeviceHandle) (device : DeviceDecl) (operation : Operation),
          (tables.handles owner)[i]? = some handle → d.devices[i]? = some device →
          Operated d t s i device handle operation := by
  refine ⟨fun c p connected address i j b k hi hj hb hk => row_eq_iff_of_answers hresolve halias hi hj hb hk, ?_⟩
  intro tables board s hgenerated hboard hs hfaults owner i handle device operation hhandle hdevice
  have hcovers := covers_of_resolve hresolve
  have hfit := controllersFit_of_resolve hresolve
  have hbuilt := hgenerated.builtFrom
  have hguards := hboard.guards (hbuilt.wellWired hcovers.declares hfit) hs
  obtain ⟨b, hb, hplaced⟩ := hcovers.placed i device hdevice
  rw [hbuilt.handles_eq, List.getElem?_map, hb] at hhandle
  obtain rfl := Option.some.inj hhandle
  refine ⟨fun hon => SharedServer.turnedAway hguards.lock.2.2 ?_, fun hon halone => ?_⟩
  · exact hbuilt.check_of_onTarget (r := (b.place.bind owner).request operation.op operation.bytes) hcovers.declares
      hfit hplaced hon hguards.lock.1.controllers_eq rfl
  · have hsound := hbuilt.soundAt hcovers hfit hplaced (List.mem_of_getElem? hb) (nodup_places hresolve halias) hon
    refine SharedServer.answeredBy hguards hsound (fun k hk => ?_) hfaults ?_ operation
    · rw [hbuilt.places_eq] at hk
      obtain ⟨other, hother, rfl⟩ := List.mem_map.mp hk
      exact halone other hother
    · rw [hbuilt.places_eq, List.getElem?_map, hb]
      rfl

end Document

/-! ## A device without a route beside one behind a multiplexer -/

namespace FrontAndSide

def simulated (address : UInt8) : SimBoard :=
  { SimBoard.new (tables address).muxes with devices := (places address).map .new }

/-- Both devices on the front bus are at one address. The document is accepted, both answer once the segment of the
second one is connected, and reading that one fails though nothing is wrong with the wire. -/
theorem confused :
    (document 0x48).resolve = .ok (board 0x48) ∧ (∀ e ∈ (document 0x48).devices, e.isAlias = false) ∧
      ¬(board 0x48).Unconfused ∧
      ((⟨(tables 0x48).server (simulated 0x48), false⟩ : SharedServer SimBoard).react
        (.operate ⟨3⟩ (handle 0x48 1) (.read [0]))).1 =
          .replied ⟨3⟩ (handle 0x48 1) (.read [0]) ⟨.error (.busCommunication .arbitrationLost), [0]⟩ := by
  refine ⟨rfl, by decide, fun hunconfused => ?_, rfl⟩
  have hwired : (board 0x48).CanConnect ⟨1⟩ ⟨0⟩ (some ⟨⟨0⟩, ⟨2⟩⟩) := ⟨_, List.mem_singleton_self _, rfl, rfl, rfl⟩
  have hrows : 0 = 1 := hunconfused ⟨1⟩ ⟨0⟩ (some ⟨⟨0⟩, ⟨2⟩⟩) 0x48 hwired 0 1 _ _ rfl rfl
    ⟨rfl, rfl, rfl, Or.inl rfl⟩ ⟨rfl, rfl, rfl, Or.inr rfl⟩
  cases hrows

/-- At another address the second device is read after a fault has been met and the first one has been written to. -/
def events : List Event :=
  [.failNext 0x70 .timeout, .operate ⟨3⟩ (handle 0x4c 1) (.read [0]), .operate ⟨3⟩ (handle 0x4c 0) (.writeReg 5 [1])]

def later : SharedServer SimBoard :=
  ((⟨(tables 0x4c).server (simulated 0x4c), false⟩ : SharedServer SimBoard).run events).2

theorem later_reached : (tables 0x4c).GetsInto (simulated 0x4c) later := by
  have hoff : ∀ q ∈ places 0x4c, q.OffMuxes (tables 0x4c).muxes := by
    unfold DevicePlace.OffMuxes
    decide
  refine ⟨events, ?_, rfl⟩
  simp only [events, List.forall_mem_cons, List.not_mem_nil, false_implies, implies_true, and_true]
  exact ⟨trivial, hoff _ (by decide), hoff _ (by decide)⟩

/-- The devices on the front bus are at different addresses, and the second one is read. -/
theorem answered_behind_mux :
    (document 0x4c).resolve = .ok (board 0x4c) ∧ (∀ e ∈ (document 0x4c).devices, e.isAlias = false) ∧
      (tables 0x4c).GeneratedFrom (board 0x4c) ∧ (tables 0x4c).Board (simulated 0x4c) ∧
      (tables 0x4c).GetsInto (simulated 0x4c) later ∧ later.server.wire.faults = [] ∧
      later.AnsweredBy 1 (handle 0x4c 1) (.read [0]) := by
  have hresolve : (document 0x4c).resolve = .ok (board 0x4c) := rfl
  have halias : ∀ e ∈ (document 0x4c).devices, e.isAlias = false := by decide
  have hgenerated : (tables 0x4c).GeneratedFrom (board 0x4c) :=
    ⟨[.initiator], {}, artifact 0x4c, {}, List.mem_singleton_self _, rfl, rfl, rfl⟩
  have hboard : (tables 0x4c).Board (simulated 0x4c) := ⟨rfl, SimBoard.selected_new _, rfl⟩
  have hoperated := (Document.answered_unless_rivalled hresolve halias).2 (tables 0x4c) (simulated 0x4c) later
    hgenerated hboard later_reached rfl ⟨3⟩ 1 (handle 0x4c 1) _ (.read [0]) rfl rfl
  refine ⟨hresolve, halias, hgenerated, hboard, later_reached, rfl, hoperated.alone ?_ ?_⟩
  · rintro ⟨c, hc, htarget, p, hp, hs⟩
    obtain rfl | rfl := List.mem_pair.mp hc
    · cases htarget
    · obtain rfl := List.mem_singleton.mp hp
      cases hs with
      | ofBus _ _ _ _ hname => cases hname
      | ofKey hbus _ _ _ _ => cases hbus
      | ofController hbus _ _ _ _ => cases hbus
  · rintro k hk ⟨⟨hc, -, ha⟩, ⟨-, hnone⟩ | ⟨hnone, -⟩⟩
    · have hplaces : k.place ∈ places 0x4c := List.mem_map_of_mem hk
      simp only [places, List.mem_cons, List.not_mem_nil, or_false] at hplaces
      rcases hplaces with h | h | h
      · rw [h] at ha
        cases ha
      · rw [h] at hnone
        cases hnone
      · rw [h] at hc
        cases hc
    · cases hnone

end FrontAndSide

end I2cTopology
