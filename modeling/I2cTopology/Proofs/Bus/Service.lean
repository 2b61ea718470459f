import I2cTopology.Proofs.Bus.Board

/-!
# A server over a simulated board

`Layout` says what is built in where, and `Layout.Holds` that a server serves a board of that layout. Its beliefs are
right (`Server.BeliefsRight`) when the tracker of every bus is right about the latches of the board.

- a request for a device that can be reached passes the checks (`Layout.Holds.check_eq_ok`), and one that passes them
  finds its bus if every port of an initiator has one (`Server.exists_bus`);
- making a route live keeps the beliefs of every bus right, touches no device, and fails only with an injected fault,
  which it spends (`Layout.Holds.routeKept`).
-/

namespace I2cTopology

/-! ## Layouts -/

/-- Where a request goes. -/
def Request.place (r : Request) : DevicePlace := ⟨r.controller, r.port, r.route, r.address⟩

/-- The controllers, multiplexers and devices of a board. -/
structure Layout where
  controllers : List ControllerDescriptor
  muxes : List MuxDescriptor
  /-- Where the devices are. -/
  places : List DevicePlace

/-- A layout on which every device can be reached and is alone at its place. -/
structure Layout.Sound (l : Layout) : Prop where
  controllers_distinct : (l.controllers.map (·.controller)).Nodup
  wired : WellWired l.muxes
  places_distinct : l.places.Nodup
  on_initiator : ∀ q ∈ l.places, ∃ c ∈ l.controllers, c.controller = q.controller ∧ c.mode = .initiator ∧
    c.hasPort q.port = true
  route_exists : ∀ q ∈ l.places, ∀ route, q.route = some route →
    ∃ m ∈ l.muxes, m.isOn q.controller q.port = true ∧ m.id = route.mux ∧ m.hasSegment route.segment = true
  /-- No device sits at the address of a multiplexer on its bus. -/
  off_muxes : ∀ q ∈ l.places, ∀ m ∈ l.muxes, m.isOn q.controller q.port = true → m.address ≠ q.address
  /-- A device that is always within reach shares its address with none that is so at times only. -/
  unrouted_alone : ∀ q ∈ l.places, ∀ k ∈ l.places, q.controller = k.controller → q.port = k.port →
    q.address = k.address → q.route = none → k.route = none

/-- No multiplexer on the bus of a place has its address. -/
def DevicePlace.OffMuxes (muxes : List MuxDescriptor) (q : DevicePlace) : Prop :=
  ∀ m ∈ muxes, m.isOn q.controller q.port = true → m.address ≠ q.address

/-- Two places are on one bus and at one address, behind whatever routes. -/
def DevicePlace.Meets (q k : DevicePlace) : Prop :=
  q.controller = k.controller ∧ q.port = k.port ∧ q.address = k.address

/-- Over latches that make the route of `q` live, a device at `k` answers along with one at `q`: one of the two needs no
route, and the route of the other is connected. -/
def DevicePlace.Rivals (latches : Latches) (k q : DevicePlace) : Prop :=
  k.Meets q ∧ ((q.route ≠ none ∧ k.route = none) ∨
    (q.route = none ∧ ∃ route, k.route = some route ∧ latches route.mux = some route.segment))

/-- Beside a device with a route only those without one have a say, whatever the latches are. -/
theorem DevicePlace.Rivals.of_routed {latches later : Latches} {k q : DevicePlace} (h : k.Rivals latches q)
    (hroute : q.route ≠ none) : k.Rivals later q := by
  obtain ⟨hmeets, ⟨-, hnone⟩ | ⟨hno, -⟩⟩ := h
  · exact ⟨hmeets, Or.inl ⟨hroute, hnone⟩⟩
  · exact absurd hno hroute

/-- The device at a place can be reached and has the place for itself. -/
structure Layout.SoundAt (l : Layout) (q : DevicePlace) : Prop where
  mem : q ∈ l.places
  wired : WellWired l.muxes
  places_distinct : l.places.Nodup
  on_initiator : ∃ c, l.controllers.find? (·.controller == q.controller) = some c ∧ c.mode = .initiator ∧
    c.hasPort q.port = true
  off_muxes : q.OffMuxes l.muxes
  routes_wired : ∀ k ∈ l.places, k.Meets q → ∀ route, k.route = some route →
    route.WiredOn l.muxes q.controller q.port

theorem Layout.SoundAt.route_wired {l : Layout} {q : DevicePlace} (h : l.SoundAt q) {route : Route}
    (hroute : q.route = some route) : route.WiredOn l.muxes q.controller q.port :=
  h.routes_wired q h.mem ⟨rfl, rfl, rfl⟩ route hroute

namespace Layout.Sound

variable {l : Layout} (h : l.Sound) {q : DevicePlace} (hq : q ∈ l.places)
include h hq

theorem soundAt : l.SoundAt q where
  mem := hq
  wired := h.wired
  places_distinct := h.places_distinct
  on_initiator := by
    obtain ⟨c, hc, hcq, hmode⟩ := h.on_initiator q hq
    refine ⟨c, ?_, hmode⟩
    exact (KeyedList.find?_eq_some_iff_of_nodup (·.controller) (by simp) h.controllers_distinct).mpr ⟨hc, hcq⟩
  off_muxes := h.off_muxes q hq
  routes_wired k hk hmeets route hroute := by
    obtain ⟨hc, hp, -⟩ := hmeets
    rw [← hc, ← hp]
    exact h.route_exists k hk route hroute

theorem not_rivals (latches : Latches) : ∀ k ∈ l.places, ¬k.Rivals latches q := by
  rintro k hk ⟨⟨hc, hp, ha⟩, ⟨hroute, hnone⟩ | ⟨hnone, route, hroute, -⟩⟩
  · exact hroute (h.unrouted_alone k hk q hq hc hp ha hnone)
  · rw [h.unrouted_alone q hq k hk hc.symm hp.symm ha.symm hnone] at hroute
    cases hroute

end Layout.Sound

/-- A server serves a board of the layout. -/
structure Layout.Holds (l : Layout) (s : Server SimBoard) : Prop where
  controllers_eq : s.controllers = l.controllers
  muxes_eq : s.muxes = l.muxes
  carries : s.wire.Carries l.muxes
  places_eq : s.wire.devices.map (·.toDevicePlace) = l.places
  tracked : ∀ c p bus, Bus.find? c p s.buses = some bus → bus.tracker.muxes = muxIdsOn l.muxes c p
  served : ∀ c ∈ l.controllers, ∀ p, c.mode = .initiator → c.hasPort p = true →
    (Bus.find? c.controller p s.buses).isSome = true

/-- The tracker of every bus is right about the latches. -/
def Server.BeliefsRight (s : Server SimBoard) : Prop :=
  ∀ c p bus, Bus.find? c p s.buses = some bus → bus.tracker.state.Describes bus.tracker.muxes s.wire.selected

/-! ## Buses -/

namespace Bus

theorem isOn_of_find? {c : Controller} {p : PortIndex} {bus : Bus} {bs : List Bus} (h : find? c p bs = some bus) :
    bus.controller = c ∧ bus.port = p :=
  isOn_iff.mp (List.find?_some (p := fun b : Bus => b.isOn c p) h)

theorem find?_map {f : Bus → Bus} (hf : ∀ b, (f b).controller = b.controller ∧ (f b).port = b.port) (c : Controller)
    (p : PortIndex) (bs : List Bus) : find? c p (bs.map f) = (find? c p bs).map f := by
  unfold find?
  rw [List.find?_map]
  congr 2
  funext b
  simp [isOn, hf b]

theorem find?_putBack_of_isOn {bus old : Bus} {c : Controller} {p : PortIndex} {bs : List Bus}
    (hon : bus.isOn c p = true) (h : find? c p bs = some old) : find? c p (putBack bus bs) = some bus := by
  rw [find?_putBack, if_pos hon, h]
  rfl

end Bus

namespace Server

variable {σ : Type}

/-- The server with other beliefs about its buses. -/
def believe (s : Server σ) (belief : Bus → RoutingState) : Server σ :=
  { s with buses := s.buses.map fun b => { b with tracker := { b.tracker with state := belief b } } }

theorem find?_believe (s : Server σ) (belief : Bus → RoutingState) (c : Controller) (p : PortIndex) :
    Bus.find? c p (s.believe belief).buses =
      (Bus.find? c p s.buses).map fun b => { b with tracker := { b.tracker with state := belief b } } :=
  Bus.find?_map (f := fun b => { b with tracker := { b.tracker with state := belief b } }) (fun _ => ⟨rfl, rfl⟩) c p
    s.buses

end Server

/-! ## Putting a bus back -/

namespace Server

variable {σ : Type}

/-- Puts a bus back and goes on with another state of the wire. -/
def leave (s : Server σ) (bus : Bus) (wire : σ) : Server σ := { s with wire, buses := bus.putBack s.buses }

theorem find?_leave (s : Server σ) (bus : Bus) (wire : σ) (c : Controller) (p : PortIndex) :
    Bus.find? c p (s.leave bus wire).buses =
      if bus.isOn c p then (Bus.find? c p s.buses).map fun _ => bus else Bus.find? c p s.buses :=
  Bus.find?_putBack bus c p s.buses

section

variable [Wire σ]

/-- Makes the route of a request live on its bus. -/
def route (s : Server σ) (bus : Bus) (r : Request) (target : Route) : Tracker.Routed AccessError σ :=
  bus.tracker.route (sendControl s.muxes r target) target s.wire

/-- What making a route live leaves of a server. -/
def afterRoute (s : Server σ) (bus : Bus) (r : Request) (target : Route) : Server σ :=
  s.leave { bus with tracker := (s.route bus r target).tracker } (s.route bus r target).wire

end

end Server

/-! ## Keeping a layout -/

namespace Layout

variable {l : Layout} {s : Server SimBoard}

/-- Putting a bus back and going on with another state of the board keeps the layout. -/
theorem Holds.putBack (h : l.Holds s) {bus : Bus}
    (hmuxes : bus.tracker.muxes = muxIdsOn l.muxes bus.controller bus.port) {wire : SimBoard}
    (hcarries : wire.Carries l.muxes) (hplaces : wire.devices.map (·.toDevicePlace) = l.places) :
    l.Holds (s.leave bus wire) where
  controllers_eq := h.controllers_eq
  muxes_eq := h.muxes_eq
  carries := hcarries
  places_eq := hplaces
  tracked c p b hb := by
    rw [Server.find?_leave] at hb
    split at hb
    · rename_i hon
      obtain ⟨_, -, rfl⟩ := Option.map_eq_some_iff.mp hb
      obtain ⟨rfl, rfl⟩ := Bus.isOn_iff.mp hon
      exact hmuxes
    · exact h.tracked c p b hb
  served c hc p hmode hport := by
    rw [Server.find?_leave]
    split
    · rw [Option.isSome_map]
      exact h.served c hc p hmode hport
    · exact h.served c hc p hmode hport

/-- Putting a bus back keeps beliefs right if its own belief is right and nothing has moved on the other buses. -/
theorem Holds.beliefsRight_putBack (h : l.Holds s) (hr : s.BeliefsRight) (hw : WellWired l.muxes) {bus : Bus}
    (hmuxes : bus.tracker.muxes = muxIdsOn l.muxes bus.controller bus.port) {wire : SimBoard}
    (hd : bus.tracker.state.Describes bus.tracker.muxes wire.selected)
    (hothers : ∀ id, id ∉ bus.tracker.muxes → wire.selected id = s.wire.selected id) :
    (s.leave bus wire).BeliefsRight := by
  intro c p b hb
  rw [Server.find?_leave] at hb
  split at hb
  · obtain ⟨_, -, rfl⟩ := Option.map_eq_some_iff.mp hb
    exact hd
  · rename_i hoff
    refine (hr c p b hb).congr fun id hid => hothers id fun hmem => hoff ?_
    rw [h.tracked c p b hb] at hid
    rw [hmuxes] at hmem
    exact Bus.isOn_iff.mpr (hw.bus_eq hmem hid)

/-- Putting a bus back after a transaction that moved no latch and no device keeps the layout and right beliefs. -/
theorem Holds.putBack_of_muxes_eq (h : l.Holds s) (hr : s.BeliefsRight) (hw : WellWired l.muxes) {c : Controller}
    {p : PortIndex} {bus : Bus} (hbus : Bus.find? c p s.buses = some bus) {wire : SimBoard}
    (hmuxes : wire.muxes = s.wire.muxes) (hplaces : wire.devices.map (·.toDevicePlace) = l.places) :
    l.Holds (s.leave bus wire) ∧ (s.leave bus wire).BeliefsRight := by
  obtain ⟨rfl, rfl⟩ := Bus.isOn_of_find? hbus
  have htracked := h.tracked _ _ _ hbus
  have hselected : wire.selected = s.wire.selected := SimBoard.selected_of_muxes_eq hmuxes
  refine ⟨h.putBack htracked (h.carries.of_muxes_eq hmuxes) hplaces, ?_⟩
  have hd := hr _ _ _ hbus
  rw [← hselected] at hd
  exact h.beliefsRight_putBack hr hw htracked hd fun id _ => congrFun hselected id

theorem Holds.withWire (h : l.Holds s) {wire : SimBoard} (hcarries : wire.Carries l.muxes)
    (hplaces : wire.devices.map (·.toDevicePlace) = l.places) : l.Holds { s with wire } :=
  ⟨h.controllers_eq, h.muxes_eq, hcarries, hplaces, h.tracked, h.served⟩

theorem Holds.believe (h : l.Holds s) (belief : Bus → RoutingState) : l.Holds (s.believe belief) where
  controllers_eq := h.controllers_eq
  muxes_eq := h.muxes_eq
  carries := h.carries
  places_eq := h.places_eq
  tracked c p bus hb := by
    rw [Server.find?_believe] at hb
    obtain ⟨old, hold, rfl⟩ := Option.map_eq_some_iff.mp hb
    exact h.tracked c p old hold
  served c hc p hmode hport := by
    rw [Server.find?_believe, Option.isSome_map]
    exact h.served c hc p hmode hport

theorem Holds.discardRouting (h : l.Holds s) : l.Holds s.discardRouting := h.believe fun _ => .unknown

end Layout

theorem Server.beliefsRight_discardRouting (s : Server SimBoard) : s.discardRouting.BeliefsRight := by
  intro c p bus hb
  replace hb : Bus.find? c p (s.believe fun _ => .unknown).buses = some bus := hb
  rw [Server.find?_believe] at hb
  obtain ⟨old, -, rfl⟩ := Option.map_eq_some_iff.mp hb
  trivial

/-! ## Starting -/

section

variable {l : Layout} {board : SimBoard}

theorem Server.mem_portsOf {c : ControllerDescriptor} {p : PortIndex} (h : c.hasPort p = true) : p ∈ portsOf c := by
  obtain ⟨n⟩ := p
  have hlt : n < c.ports := by simpa [ControllerDescriptor.hasPort] using h
  exact List.mem_map.mpr ⟨n.toNat, List.mem_range.mpr (UInt8.lt_iff_toNat_lt.mp hlt), by simp⟩

/-- A bus of a new server knows the multiplexers on it and believes that nothing is connected. -/
theorem Server.tracker_of_find?_new {σ : Type} {wire : σ} {controllers : List ControllerDescriptor}
    {muxes : List MuxDescriptor} {c : Controller} {p : PortIndex} {bus : Bus}
    (h : Bus.find? c p (Server.new wire controllers muxes).buses = some bus) :
    bus.tracker = .new (muxIdsOn muxes c p) := by
  obtain ⟨d, -, hbus⟩ := List.mem_flatMap.mp (List.mem_of_find?_eq_some h)
  obtain ⟨q, -, rfl⟩ := List.mem_map.mp hbus
  obtain ⟨rfl, rfl⟩ := Bus.isOn_of_find? h
  rfl

theorem Server.isSome_find?_new {σ : Type} (wire : σ) {controllers : List ControllerDescriptor}
    (muxes : List MuxDescriptor) {c : ControllerDescriptor} (hc : c ∈ controllers) {p : PortIndex}
    (hmode : c.mode = .initiator) (hport : c.hasPort p = true) :
    (Bus.find? c.controller p (Server.new wire controllers muxes).buses).isSome = true := by
  unfold Bus.find?
  rw [List.find?_isSome]
  refine ⟨_, List.mem_flatMap.mpr ⟨c, List.mem_filter.mpr ⟨hc, by simp [hmode]⟩,
    List.mem_map.mpr ⟨p, Server.mem_portsOf hport, rfl⟩⟩, ?_⟩
  simp [Bus.isOn]

theorem Layout.holds_new (hcarries : board.Carries l.muxes)
    (hplaces : board.devices.map (·.toDevicePlace) = l.places) : l.Holds (Server.new board l.controllers l.muxes) where
  controllers_eq := rfl
  muxes_eq := rfl
  carries := hcarries
  places_eq := hplaces
  tracked _ _ _ hb := congrArg Tracker.muxes (Server.tracker_of_find?_new hb)
  served _ hc _ hmode hport := Server.isSome_find?_new board l.muxes hc hmode hport

/-- A new server is right to believe that nothing is connected if nothing is. -/
theorem Server.beliefsRight_new {controllers : List ControllerDescriptor} {muxes : List MuxDescriptor}
    (h : ∀ id, board.selected id = none) : (Server.new board controllers muxes).BeliefsRight := by
  intro c p bus hb
  rw [Server.tracker_of_find?_new hb]
  exact fun id _ => h id

end

/-! ## Requests that pass the checks -/

namespace Server

variable {σ : Type} {s : Server σ} {r : Request}

/-- A request that passes the checks names a port of an initiator. -/
theorem controller_of_check {u : Unit} (h : s.check r = .ok u) :
    ∃ c ∈ s.controllers, c.controller = r.controller ∧ c.mode = .initiator ∧ c.hasPort r.port = true := by
  unfold check at h
  split at h
  · cases h
  · rename_i c hfind
    refine ⟨c, List.mem_of_find?_eq_some hfind, by simpa using List.find?_some hfind, ?_⟩
    split at h
    · cases h
    · rename_i hmode
      split at h
      · cases h
      · rename_i hport
        exact ⟨by simpa using hmode, by simpa using hport⟩

/-- A request that passes the checks finds its bus. -/
theorem exists_bus (hserved : ∀ c ∈ s.controllers, ∀ p, c.mode = .initiator → c.hasPort p = true →
    (Bus.find? c.controller p s.buses).isSome = true) {u : Unit} (h : s.check r = .ok u) :
    ∃ bus, Bus.find? r.controller r.port s.buses = some bus := by
  obtain ⟨c, hc, hcr, hmode, hport⟩ := controller_of_check h
  have hbus := hserved c hc _ hmode hport
  rw [hcr] at hbus
  exact Option.isSome_iff_exists.mp hbus

/-- The route of a request that passes the checks leads over a wired segment on its bus. -/
theorem wiredOn_of_check {u : Unit} (h : s.check r = .ok u) {target : Route} (ht : r.route = some target) :
    target.WiredOn s.muxes r.controller r.port := by
  unfold check at h
  split at h
  · cases h
  · split at h
    · cases h
    · split at h
      · cases h
      · simp only [ht] at h
        split at h
        · cases h
        · rename_i m hfind
          split at h
          · rename_i hsegment
            have hm := List.find?_some hfind
            simp only [Bool.and_eq_true, beq_iff_eq] at hm
            exact ⟨m, List.mem_of_find?_eq_some hfind, hm.2, hm.1, hsegment⟩
          · cases h

/-- A request passes the checks if it names a port of an initiator and a wired segment on it, if it names any. -/
theorem check_eq_ok {c : ControllerDescriptor} (hfind : s.controllers.find? (·.controller == r.controller) = some c)
    (hmode : c.mode = .initiator) (hport : c.hasPort r.port = true) (hs : Selectable s.muxes)
    (hroute : ∀ target, r.route = some target → target.WiredOn s.muxes r.controller r.port) :
    s.check r = .ok () := by
  simp only [check, hfind, hmode, hport, ne_eq, not_true_eq_false, if_false, Bool.not_true, Bool.false_eq_true]
  cases ht : r.route with
  | none => rfl
  | some target =>
    obtain ⟨m, hm, hon, hid, hsegment⟩ := hroute target ht
    have hmux : s.muxes.find? (fun m => m.id == target.mux && m.isOn r.controller r.port) = some m := by
      have hsub := hs.find?_id hm
      rw [hid] at hsub
      obtain ⟨-, before, after, hsplit, hno⟩ := List.find?_eq_some_iff_append.mp hsub
      refine List.find?_eq_some_iff_append.mpr ⟨by simpa [hid] using hon, before, after, hsplit, fun a ha => ?_⟩
      have hne := hno a ha
      simp only [Bool.not_eq_true', beq_eq_false_iff_ne] at hne
      simp [hne]
    simp only [hmux, hsegment, if_true]

end Server

namespace Layout

variable {l : Layout} {s : Server SimBoard} {r : Request}

/-- A request for a device that can be reached passes the checks. -/
theorem Holds.check_eq_ok (h : l.Holds s) (hl : l.SoundAt r.place) : s.check r = .ok () := by
  obtain ⟨c, hfind, hmode, hport⟩ := hl.on_initiator
  rw [← h.controllers_eq] at hfind
  refine Server.check_eq_ok hfind hmode hport ?_ fun target ht => ?_
  · rw [h.muxes_eq]
    exact hl.wired.selectable
  · rw [h.muxes_eq]
    exact hl.route_wired ht

end Layout

/-! ## Making a route live -/

/-- A run of control writes touches no device, and it fails only with an injected fault, which it spends. -/
theorem Server.carryOut_sendControl {muxes : List MuxDescriptor} (hw : WellWired muxes) {r : Request}
    (target : Route) {ws : List ControlWrite} (state : RoutingState) {b : SimBoard} (hb : b.Carries muxes)
    (hf : ∀ w ∈ ws, w.FitsBus muxes r.controller r.port) :
    let run := carryOut (sendControl muxes r target) state b ws
    run.wire.devices = b.devices ∧
      ((run.result = .ok () ∧ run.wire.faults = b.faults) ∨
        ∃ fault address, run.result = .error (.routingFailure target fault) ∧
          b.faults.Perm ((address, fault) :: run.wire.faults)) := by
  induction ws generalizing state b with
  | nil => exact ⟨rfl, Or.inl ⟨rfl, rfl⟩⟩
  | cons w ws ih =>
    have hcarries := (actsOnLatches_sendControl r target hw).sound_send (hf w List.mem_cons_self) hb
    rcases sendControl_cases target hw hb (hf w List.mem_cons_self) with ⟨fault, he, hs⟩ | ⟨hok, hs⟩
    · obtain ⟨address, hperm⟩ := hs.faults_perm
      have hsend : sendControl muxes r target b w =
          (.error (.routingFailure target fault), (sendControl muxes r target b w).2) := Prod.ext he rfl
      unfold carryOut
      rw [hsend]
      exact ⟨hs.devices_eq, Or.inr ⟨fault, address, rfl, hperm⟩⟩
    · have hsend : sendControl muxes r target b w = (.ok (), (sendControl muxes r target b w).2) := Prod.ext hok rfl
      have hrest := ih (state.after w) hcarries fun v hv => hf v (List.mem_cons_of_mem _ hv)
      rw [hs.devices_eq, hs.faults_eq] at hrest
      unfold carryOut
      rw [hsend]
      exact hrest

namespace Layout

variable {l : Layout} {s : Server SimBoard} {r : Request}

/-- What making a route live leaves of a server: its layout, right beliefs, and every device as it was. If it succeeded
the route is live and no fault was met; if it failed, it met an injected fault and spent it. -/
structure RouteKept (l : Layout) (s : Server SimBoard) (bus : Bus) (r : Request) (target : Route) : Prop where
  holds : l.Holds (s.afterRoute bus r target)
  right : (s.afterRoute bus r target).BeliefsRight
  devices_eq : (s.afterRoute bus r target).wire.devices = s.wire.devices
  outcome :
    (∃ action, (s.route bus r target).result = .ok action ∧
      (s.route bus r target).tracker.state = .segmentActive target ∧
      (s.afterRoute bus r target).wire.faults = s.wire.faults) ∨
    ∃ fault address, (s.route bus r target).result = .error (.routingFailure target fault) ∧
      s.wire.faults.Perm ((address, fault) :: (s.afterRoute bus r target).wire.faults)

/-- Making a route that leads over a wired segment live. -/
theorem Holds.routeKept (h : l.Holds s) (hw : WellWired l.muxes) (hright : s.BeliefsRight) {bus : Bus}
    (hbus : Bus.find? r.controller r.port s.buses = some bus) {target : Route}
    (ht : target.WiredOn l.muxes r.controller r.port) : l.RouteKept s bus r target := by
  obtain ⟨hc, hp⟩ := Bus.isOn_of_find? hbus
  have hmuxes := h.tracked _ _ _ hbus
  have hd := hright _ _ _ hbus
  have hmem : target.mux ∈ bus.tracker.muxes := hmuxes ▸ ht.mux_mem
  have hfits := Server.fitsBus_of_mem_plan hw.selectable hmuxes hd.names ht
  have hacts := Server.actsOnLatches_sendControl r target hw
  obtain ⟨hdevices, hcases⟩ := Server.carryOut_sendControl hw target bus.tracker.state h.carries hfits
  have hroute : s.route bus r target = bus.tracker.route (Server.sendControl l.muxes r target) target s.wire := by
    rw [Server.route, h.muxes_eq]
  have hafter : (s.route bus r target).tracker.muxes = muxIdsOn l.muxes bus.controller bus.port := by
    rw [hc, hp, ← hmuxes, hroute]
    rfl
  have hplaces : (s.route bus r target).wire.devices.map (·.toDevicePlace) = l.places := by
    rw [hroute]
    exact (congrArg _ hdevices).trans h.places_eq
  have hcarries : (s.route bus r target).wire.Carries l.muxes := by
    rw [hroute]
    exact hacts.sound_carryOut hfits h.carries
  have hdescribes : (s.route bus r target).tracker.state.Describes (s.route bus r target).tracker.muxes
      (s.route bus r target).wire.selected := by
    rw [hroute]
    exact hacts.describes_route hfits h.carries hmem hd
  have hothers : ∀ id, id ∉ (s.route bus r target).tracker.muxes →
      (s.route bus r target).wire.selected id = s.wire.selected id := by
    rw [hroute]
    intro id hid
    refine hacts.latches_carryOut_of_ne hfits h.carries fun w hw e => hid ?_
    have hin : w.mux ∈ bus.tracker.muxes := Tracker.mux_mem_of_mem_plan hd.names hmem hw
    rwa [e] at hin
  refine ⟨?_, ?_, ?_, ?_⟩
  · refine h.putBack ?_ hcarries hplaces
    exact hafter
  · refine h.beliefsRight_putBack hright hw ?_ ?_ hothers
    · exact hafter
    · exact hdescribes
  · exact (congrArg (·.wire.devices) hroute).trans hdevices
  · unfold Server.afterRoute Server.leave
    rw [hroute]
    rcases hcases with ⟨hok, hfaults⟩ | ⟨fault, address, he, hperm⟩
    · have hresult : ∃ a, (bus.tracker.route (Server.sendControl l.muxes r target) target s.wire).result = .ok a := by
        simp only [Tracker.route, hok, Except.map]
        exact ⟨_, rfl⟩
      obtain ⟨action, hresult⟩ := hresult
      exact Or.inl ⟨action, hresult, Tracker.state_route_of_ok hresult, hfaults⟩
    · exact Or.inr ⟨fault, address, by simp only [Tracker.route, he, Except.map], hperm⟩

end Layout

end I2cTopology
