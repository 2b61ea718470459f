import I2cTopology.Proofs.Bus.Calls

/-!
# The traffic of a run

A run of a server is a list of requests and of moments at which all beliefs are given up (`ServerEvent`). While nothing
on the wire fails, a server believes of a bus what the events so far lead to (`Server.Remembers`): the last route that
was asked for there is live, or nothing is connected yet, or, if the beliefs were given up since, anything may be. So
the control writes before a transaction can be told from the requests so far (`NecessaryWrites`,
`Tracker.necessary_plan`), and the record of a run consists of these and of the transactions
(`Server.traffic_necessary`): no control write is made without need, and none is left out.
-/

namespace I2cTopology

/-! ## Runs -/

/-- What happens to a server. -/
inductive ServerEvent where
  | request (r : Request) (buffer : Buffer)
  | discardRouting

namespace Server

variable {σ : Type} [Wire σ]

/-- What an event leaves of a server. -/
def step (s : Server σ) : ServerEvent → Server σ
  | .request r buffer => (s.handle r buffer).server
  | .discardRouting => s.discardRouting

/-- What a run leaves of a server. -/
def steps (s : Server σ) (events : List ServerEvent) : Server σ := events.foldl step s

/-- What a run asks the wire for, in order. -/
def traffic (s : Server σ) (events : List ServerEvent) : List Call := (s.recorded.steps events).wire.calls

end Server

/-! ## What was asked for so far -/

namespace ServerEvent

/-- The route that an event asks for on a bus. -/
def routeOn? (c : Controller) (p : PortIndex) : ServerEvent → Option Route
  | request r _ => if r.controller = c ∧ r.port = p then r.route else none
  | discardRouting => none

/-- The last route that was asked for on a bus. -/
def lastRoute? (c : Controller) (p : PortIndex) (events : List ServerEvent) : Option Route :=
  (events.filterMap (routeOn? c p)).getLast?

/-- What is believed of a bus after an event in which nothing fails. -/
def believed (c : Controller) (p : PortIndex) (before : RoutingState) (e : ServerEvent) : RoutingState :=
  match e with
  | request _ _ => (e.routeOn? c p).elim before .segmentActive
  | discardRouting => .unknown

variable {c : Controller} {p : PortIndex} {events : List ServerEvent}

theorem lastRoute?_cons (e : ServerEvent) (events : List ServerEvent) :
    lastRoute? c p (e :: events) = (lastRoute? c p events).or (e.routeOn? c p) := by
  unfold lastRoute?
  rw [← List.singleton_append, List.filterMap_append, List.getLast?_append]
  cases h : e.routeOn? c p <;> simp [h]

/-- Until beliefs are given up, the last route is believed to be live. -/
theorem foldl_believed (hkept : .discardRouting ∉ events) (before : RoutingState) :
    events.foldl (believed c p) before = (lastRoute? c p events).elim before .segmentActive := by
  induction events generalizing before with
  | nil => rfl
  | cons e events ih =>
    rw [List.mem_cons, not_or] at hkept
    rw [List.foldl_cons, ih hkept.2, lastRoute?_cons]
    cases lastRoute? c p events with
    | some route => rfl
    | none =>
      cases e with
      | request r buffer => rfl
      | discardRouting => exact absurd rfl hkept.1

/-- Once beliefs are given up, nothing is believed until a route is asked for. -/
theorem foldl_believed_unknown (hnone : lastRoute? c p events = none) :
    events.foldl (believed c p) .unknown = .unknown := by
  induction events with
  | nil => rfl
  | cons e events ih =>
    rw [lastRoute?_cons, Option.or_eq_none_iff] at hnone
    have hbelieved : believed c p .unknown e = .unknown := by
      cases e with
      | request r buffer =>
        show ((ServerEvent.request r buffer).routeOn? c p).elim _ _ = _
        rw [hnone.2]
        rfl
      | discardRouting => rfl
    rw [List.foldl_cons, hbelieved, ih hnone.1]

/-- What is believed after the beliefs were given up depends on what came later alone. -/
theorem foldl_believed_discard (earlier later : List ServerEvent) (before : RoutingState) :
    (earlier ++ .discardRouting :: later).foldl (believed c p) before = later.foldl (believed c p) .unknown := by
  rw [List.foldl_append, List.foldl_cons]
  rfl

end ServerEvent

/-! ## Necessary control writes -/

/-- The control writes that replace the live route, if there is one, by another. -/
def ControlWrite.change : Option Route → Route → List ControlWrite
  | none, target => [.select target]
  | some previous, target =>
    (if previous.mux = target.mux then [] else [.deselect previous.mux]) ++
      if previous = target then [] else [.select target]

/-- The control writes that make a route live whatever is connected: the other multiplexers of its bus let go, in the
order in which the tracker of the bus has them. -/
def ControlWrite.establish (muxes : List MuxId) (target : Route) : List ControlWrite :=
  (muxes.filter (· ≠ target.mux)).map .deselect ++ [.select target]

/-- The control writes that are needed for a request, after some events. -/
structure NecessaryWrites (muxes : List MuxDescriptor) (before : List ServerEvent) (r : Request)
    (writes : List ControlWrite) : Prop where
  unrouted : r.route = none → writes = []
  /-- As long as no beliefs were given up, a select for each change of the route on the bus, and a deselect right before
  it for each change of the multiplexer. -/
  kept : ∀ target, r.route = some target → .discardRouting ∉ before →
    writes = ControlWrite.change (ServerEvent.lastRoute? r.controller r.port before) target
  /-- The first route after beliefs were given up is established, be it the one that was live or not. -/
  givenUp : ∀ target earlier later, r.route = some target → before = earlier ++ .discardRouting :: later →
    ServerEvent.lastRoute? r.controller r.port later = none →
    writes = ControlWrite.establish (muxIdsOn muxes r.controller r.port) target
  /-- From then on, changes count again. -/
  regained : ∀ target earlier later previous, r.route = some target → before = earlier ++ .discardRouting :: later →
    .discardRouting ∉ later → ServerEvent.lastRoute? r.controller r.port later = some previous →
    writes = ControlWrite.change (some previous) target

/-- What the events of a run ask the wire for, after some events: for each request the control writes that are needed,
and then its own transaction. -/
inductive NecessaryTraffic (muxes : List MuxDescriptor) : List ServerEvent → List ServerEvent → List Call → Prop
  | done {before : List ServerEvent} : NecessaryTraffic muxes before [] []
  | request {before after : List ServerEvent} {r : Request} {buffer : Buffer} {writes : List ControlWrite}
      {controls calls : List Call} {reply : Reply BusFault} : NecessaryWrites muxes before r writes →
      List.Forall₂ (Call.Puts muxes r) writes controls →
      NecessaryTraffic muxes (before ++ [.request r buffer]) after calls →
      NecessaryTraffic muxes before (.request r buffer :: after)
        (controls ++ ⟨r.toExchange, buffer, reply⟩ :: calls)
  | discardRouting {before after : List ServerEvent} {calls : List Call} :
      NecessaryTraffic muxes (before ++ [.discardRouting]) after calls →
      NecessaryTraffic muxes before (.discardRouting :: after) calls

theorem exists_last_split {before : List ServerEvent} {e : ServerEvent} (h : e ∈ before) :
    ∃ earlier later, before = earlier ++ e :: later ∧ e ∉ later := by
  obtain ⟨later, earlier, hsplit, hlater⟩ := List.eq_append_cons_of_mem (List.mem_reverse.mpr h)
  refine ⟨earlier.reverse, later.reverse, ?_, by simpa using hlater⟩
  rw [← List.reverse_reverse before, hsplit]
  simp

/-- What came before leaves no choice of what is needed. -/
theorem NecessaryWrites.unique {muxes : List MuxDescriptor} {before : List ServerEvent} {r : Request}
    {writes writes' : List ControlWrite} (h : NecessaryWrites muxes before r writes)
    (h' : NecessaryWrites muxes before r writes') : writes = writes' := by
  cases hroute : r.route with
  | none => rw [h.unrouted hroute, h'.unrouted hroute]
  | some target =>
    by_cases hkept : ServerEvent.discardRouting ∈ before
    · obtain ⟨earlier, later, hsplit, hlater⟩ := exists_last_split hkept
      cases hlast : ServerEvent.lastRoute? r.controller r.port later with
      | none => rw [h.givenUp _ _ _ hroute hsplit hlast, h'.givenUp _ _ _ hroute hsplit hlast]
      | some previous =>
        rw [h.regained _ _ _ _ hroute hsplit hlater hlast, h'.regained _ _ _ _ hroute hsplit hlater hlast]
    · rw [h.kept _ hroute hkept, h'.kept _ hroute hkept]

/-! ## The tracker's plan -/

namespace Tracker

theorem plan_of_live {t : Tracker} {previous : Route} (h : t.state = .segmentActive previous) (target : Route) :
    t.plan target = ControlWrite.change (some previous) target := by
  simp only [plan, h, ControlWrite.change]
  by_cases hroute : previous = target
  · simp [hroute]
  · by_cases hmux : previous.mux = target.mux <;> simp [hroute, hmux]

theorem plan_of_none {t : Tracker} (h : t.state = .noSegmentActive) (target : Route) :
    t.plan target = ControlWrite.change none target := by
  simp only [plan, h, ControlWrite.change]

theorem plan_of_unknown {t : Tracker} (h : t.state = .unknown) (target : Route) :
    t.plan target = ControlWrite.establish t.muxes target := by
  simp only [plan, h, ControlWrite.establish]

/-- If a tracker believes what the events so far lead to, it plans the writes that are needed. -/
theorem necessary_plan {t : Tracker} {muxes : List MuxDescriptor} {before : List ServerEvent} {r : Request}
    (hmuxes : t.muxes = muxIdsOn muxes r.controller r.port)
    (hstate : t.state = before.foldl (ServerEvent.believed r.controller r.port) .noSegmentActive) :
    NecessaryWrites muxes before r (r.route.elim [] t.plan) where
  unrouted hroute := by rw [hroute]; rfl
  kept target hroute hkept := by
    rw [ServerEvent.foldl_believed hkept] at hstate
    rw [hroute]
    cases hlast : ServerEvent.lastRoute? r.controller r.port before with
    | none =>
      rw [hlast] at hstate
      exact plan_of_none hstate target
    | some previous =>
      rw [hlast] at hstate
      exact plan_of_live hstate target
  givenUp target earlier later hroute hsplit hnone := by
    rw [hsplit, ServerEvent.foldl_believed_discard, ServerEvent.foldl_believed_unknown hnone] at hstate
    rw [hroute, ← hmuxes]
    exact plan_of_unknown hstate target
  regained target earlier later previous hroute hsplit hkept hlast := by
    rw [hsplit, ServerEvent.foldl_believed_discard, ServerEvent.foldl_believed hkept, hlast] at hstate
    rw [hroute]
    exact plan_of_live hstate target

end Tracker

/-! ## The record of a run -/

namespace Server

variable {σ : Type} [Wire σ] {s : Server (Recorded σ)} {r : Request} {buffer : Buffer}

/-- If a device transaction does not fail, the record grows by it. -/
theorem exists_answered_transaction {bus : Bus} {served : Served (Recorded σ)} (ht : s.Transacted bus r buffer served)
    (hfine : ∀ call ∈ served.server.wire.calls, call.fault? = none) :
    ∃ (reply : Reply BusFault) (n : Nat), served.server.wire.calls = s.wire.calls ++ [⟨r.toExchange, buffer, reply⟩] ∧
      served.reply.result = .ok n := by
  obtain ⟨reply, hcalls, hresult⟩ := exists_call_transactDevice ht
  have hcall : (⟨r.toExchange, buffer, reply⟩ : Call).fault? = none := hfine _ (by rw [hcalls]; simp)
  cases hreply : reply.result with
  | ok n => exact ⟨reply, n, hcalls, by rw [hresult, hreply]; rfl⟩
  | error fault => simp [Call.fault?, hreply] at hcall

/-- If a request passes the checks and nothing fails, the record grows by the plan of its bus and its own
transaction. -/
theorem Orderly.exists_planned_record (h : s.Orderly) (hs : Selectable s.muxes) (hcheck : s.check r = .ok ())
    (hfine : ∀ call ∈ (s.handle r buffer).server.wire.calls, call.fault? = none) :
    ∃ bus controls reply n, Bus.find? r.controller r.port s.buses = some bus ∧
      List.Forall₂ (Call.Puts s.muxes r) (r.route.elim [] bus.tracker.plan) controls ∧
      (s.handle r buffer).server.wire.calls = s.wire.calls ++ (controls ++ [⟨r.toExchange, buffer, reply⟩]) ∧
      (s.handle r buffer).reply.result = .ok n := by
  have hhandled := h.handled r buffer
  generalize s.handle r buffer = served at hhandled hfine
  cases hhandled with
  | refused herror =>
    rw [hcheck] at herror
    cases herror
  | @direct bus _ _ hbus hroute ht =>
    obtain ⟨reply, n, hcalls, hresult⟩ := exists_answered_transaction ht hfine
    exact ⟨bus, [], reply, n, hbus, by rw [hroute]; exact .nil, hcalls, hresult⟩
  | @unroutable bus target e _ hbus hroute hresult =>
    obtain ⟨hmuxes, hn⟩ := h.tracked _ _ _ hbus
    have hfits := fitsBus_of_mem_plan hs hmuxes hn (wiredOn_of_check hcheck hroute)
    obtain ⟨controls, hcalls, -, hcases⟩ := calls_carryOut hs target hfits bus.tracker.state s.wire
    rcases hcases with ⟨-, -, hok⟩ | ⟨before, failing, fault, rfl, -, hfailing, -⟩
    · rw [Tracker.carryOut_of_route_error hresult] at hok
      cases hok
    · -- a run of control writes fails with a call that is on record
      have hmem : failing ∈ (s.afterRoute bus r target).wire.calls := by
        show failing ∈
          (carryOut (sendControl s.muxes r target) bus.tracker.state s.wire (bus.tracker.plan target)).wire.calls
        rw [hcalls]
        simp
      rw [hfine failing hmem] at hfailing
      cases hfailing
  | @routed bus target action served _ hbus hroute hresult ht =>
    obtain ⟨hmuxes, hn⟩ := h.tracked _ _ _ hbus
    have hfits := fitsBus_of_mem_plan hs hmuxes hn (wiredOn_of_check hcheck hroute)
    obtain ⟨controls, hcalls, -, hcases⟩ := calls_carryOut hs target hfits bus.tracker.state s.wire
    rcases hcases with ⟨hputs, -, -⟩ | ⟨_, _, _, -, -, -, herror⟩
    · obtain ⟨reply, n, hdevice, hreply⟩ := exists_answered_transaction ht hfine
      refine ⟨bus, controls, reply, n, hbus, by rw [hroute]; exact hputs, ?_, hreply⟩
      show served.server.wire.calls = _
      rw [hdevice, ← List.append_assoc]
      exact congrArg (· ++ _) hcalls
    · rw [Tracker.carryOut_of_route_ok hresult] at herror
      cases herror

/-! ### Steps -/

theorem reachable_step {τ : Type} [Wire τ] (s : Server τ) (e : ServerEvent) : s.Reachable (s.step e) := by
  cases e with
  | request r buffer => exact .handle r buffer .refl
  | discardRouting => exact .discardRouting .refl

theorem check_eq_of_same {τ : Type} {s u : Server τ} (hcontrollers : u.controllers = s.controllers)
    (hmuxes : u.muxes = s.muxes) (r : Request) : u.check r = s.check r := by
  unfold check
  rw [hcontrollers, hmuxes]

theorem routingState?_discardRouting {τ : Type} (s : Server τ) (c : Controller) (p : PortIndex) :
    s.discardRouting.routingState? c p = (s.routingState? c p).map fun _ => .unknown := by
  show (Bus.find? c p (s.believe fun _ => .unknown).buses).map _ = _
  rw [find?_believe, Option.map_map, routingState?, Option.map_map]
  rfl

/-- No event takes anything from the record. -/
theorem Orderly.calls_prefix_step (h : s.Orderly) (hs : Selectable s.muxes) (e : ServerEvent) :
    s.wire.calls <+: (s.step e).wire.calls := by
  cases e with
  | request r buffer =>
    obtain ⟨controls, device, hcalls, -, -⟩ := h.exists_accounted_record hs r buffer
    exact ⟨controls ++ device, hcalls.symm⟩
  | discardRouting => exact List.prefix_rfl

theorem Orderly.calls_prefix_steps (h : s.Orderly) (hs : Selectable s.muxes) (events : List ServerEvent) :
    s.wire.calls <+: (s.steps events).wire.calls := by
  induction events generalizing s with
  | nil => exact List.prefix_rfl
  | cons e events ih =>
    obtain ⟨hnext, -, hmuxes⟩ := (reachable_step s e).orderly h
    exact (h.calls_prefix_step hs e).trans (ih hnext (by rwa [hmuxes]))

/-- A server believes what the events so far lead to. -/
structure Remembers {τ : Type} (s : Server τ) (before : List ServerEvent) : Prop where
  orderly : s.Orderly
  believes : ∀ c p state, s.routingState? c p = some state →
    state = before.foldl (ServerEvent.believed c p) .noSegmentActive

theorem remembers_new {τ : Type} (wire : τ) (controllers : List ControllerDescriptor) (muxes : List MuxDescriptor) :
    (Server.new wire controllers muxes).Remembers [] where
  orderly := orderly_new wire controllers muxes
  believes c p state hstate := by
    obtain ⟨bus, hbus, rfl⟩ := Option.map_eq_some_iff.mp hstate
    rw [tracker_of_find?_new hbus]
    rfl

theorem Remembers.discardRouting {τ : Type} [Wire τ] {s : Server τ} {before : List ServerEvent}
    (h : s.Remembers before) : s.discardRouting.Remembers (before ++ [.discardRouting]) where
  orderly := ((reachable_step s .discardRouting).orderly h.orderly).1
  believes c p state hstate := by
    rw [routingState?_discardRouting] at hstate
    obtain ⟨_, -, rfl⟩ := Option.map_eq_some_iff.mp hstate
    rw [ServerEvent.foldl_believed_discard]
    rfl

/-- A request that succeeds leaves its route as the belief about its bus. -/
theorem Remembers.handle {τ : Type} [Wire τ] {s : Server τ} {before : List ServerEvent} (h : s.Remembers before)
    (hs : Selectable s.muxes) {n : Nat} (hresult : (s.handle r buffer).reply.result = .ok n) :
    (s.handle r buffer).server.Remembers (before ++ [.request r buffer]) where
  orderly := (h.orderly.handle r buffer).1
  believes c p state hstate := by
    rw [h.orderly.routingState?_handle hs, hresult] at hstate
    rw [List.foldl_concat, ServerEvent.believed, ServerEvent.routeOn?]
    split at hstate
    · rename_i hbus
      obtain ⟨old, hold, rfl⟩ := Option.map_eq_some_iff.mp hstate
      rw [if_pos hbus, ← h.believes c p old hold]
      cases hroute : r.route <;> simp [Request.beliefAfter, hroute]
    · rename_i hbus
      rw [if_neg hbus, h.believes c p state hstate]
      rfl

/-- The traffic of a run from a server that believes what came before is the necessary one. -/
theorem Remembers.exists_traffic {before events : List ServerEvent} (h : s.Remembers before) (hs : Selectable s.muxes)
    (haccepted : ∀ r buffer, .request r buffer ∈ events → s.check r = .ok ())
    (hfine : ∀ call ∈ (s.steps events).wire.calls, call.fault? = none) :
    ∃ calls, (s.steps events).wire.calls = s.wire.calls ++ calls ∧ NecessaryTraffic s.muxes before events calls := by
  induction events generalizing s before with
  | nil => exact ⟨[], (List.append_nil _).symm, .done⟩
  | cons e events ih =>
    obtain ⟨hnext, hcontrollers, hmuxes⟩ := (reachable_step s e).orderly h.orderly
    have hs' : Selectable (s.step e).muxes := by rwa [hmuxes]
    have haccepted' : ∀ r buffer, .request r buffer ∈ events → (s.step e).check r = .ok () := fun r buffer hr => by
      rw [check_eq_of_same hcontrollers hmuxes]
      exact haccepted r buffer (List.mem_cons_of_mem _ hr)
    cases e with
    | request r buffer =>
      have hstep : ∀ call ∈ (s.handle r buffer).server.wire.calls, call.fault? = none := fun call hcall =>
        hfine call ((hnext.calls_prefix_steps hs' events).subset hcall)
      obtain ⟨bus, controls, reply, n, hbus, hputs, hcalls, hresult⟩ :=
        h.orderly.exists_planned_record hs (haccepted r buffer List.mem_cons_self) hstep
      obtain ⟨calls, hrest, htraffic⟩ := ih (s := s.step (.request r buffer)) (h.handle hs hresult) hs' haccepted' hfine
      rw [hmuxes] at htraffic
      have hstate : s.routingState? r.controller r.port = some bus.tracker.state := by rw [routingState?, hbus]; rfl
      have hwrites := Tracker.necessary_plan (h.orderly.tracked _ _ _ hbus).1 (h.believes _ _ _ hstate)
      refine ⟨controls ++ ⟨r.toExchange, buffer, reply⟩ :: calls, ?_, .request hwrites hputs htraffic⟩
      calc (s.steps (.request r buffer :: events)).wire.calls
          = (s.handle r buffer).server.wire.calls ++ calls := hrest
        _ = s.wire.calls ++ (controls ++ ⟨r.toExchange, buffer, reply⟩ :: calls) := by rw [hcalls]; simp
    | discardRouting =>
      obtain ⟨calls, hrest, htraffic⟩ := ih h.discardRouting hs' haccepted' hfine
      exact ⟨calls, hrest, .discardRouting htraffic⟩

/-- **Control writes are the necessary ones.** On a wire on which nothing fails, a run of requests that pass the checks
puts exactly these calls on it: for each request with a route the control writes that change the route on its bus, in
order, and for each request its own transaction. -/
theorem traffic_necessary {wire : σ} {controllers : List ControllerDescriptor} {muxes : List MuxDescriptor}
    (hs : Selectable muxes) {events : List ServerEvent}
    (haccepted : ∀ r buffer, .request r buffer ∈ events → (Server.new wire controllers muxes).check r = .ok ())
    (hfine : ∀ call ∈ (Server.new wire controllers muxes).traffic events, call.fault? = none) :
    NecessaryTraffic muxes [] events ((Server.new wire controllers muxes).traffic events) := by
  have hnew := remembers_new (⟨wire, []⟩ : Recorded σ) controllers muxes
  obtain ⟨calls, hcalls, htraffic⟩ := hnew.exists_traffic hs haccepted hfine
  have heq : (Server.new wire controllers muxes).traffic events = calls := hcalls
  rw [heq]
  exact htraffic

end Server

namespace TwoBuses

def places : List DevicePlace :=
  [⟨⟨1⟩, ⟨0⟩, some ⟨⟨4⟩, ⟨2⟩⟩, 0x48⟩, ⟨⟨1⟩, ⟨0⟩, some ⟨⟨7⟩, ⟨8⟩⟩, 0x48⟩, ⟨⟨1⟩, ⟨0⟩, none, 0x20⟩,
    ⟨⟨1⟩, ⟨1⟩, some ⟨⟨5⟩, ⟨1⟩⟩, 0x48⟩]

/-- A board on which every device answers. -/
def board : SimBoard := { SimBoard.new muxes with devices := places.map .new }

def direct : Request := { near with address := 0x20, route := none }

def beside : Request := { near with port := ⟨1⟩, route := some ⟨⟨5⟩, ⟨1⟩⟩ }

/-- Two buses by turns, with the beliefs given up before the last request. -/
def events : List ServerEvent :=
  [.request near [0], .request direct [0], .request beside [0], .request near [0], .request far [0],
    .discardRouting, .request far [0]]

theorem accepted : ∀ r buffer, .request r buffer ∈ events →
    (Server.new board controllers muxes).check r = .ok () := by
  intro r buffer h
  simp only [events, List.mem_cons, ServerEvent.request.injEq, reduceCtorEq, List.not_mem_nil, or_false, false_or] at h
  rcases h with ⟨rfl, -⟩ | ⟨rfl, -⟩ | ⟨rfl, -⟩ | ⟨rfl, -⟩ | ⟨rfl, -⟩ | ⟨rfl, -⟩ <;> rfl

theorem fine : ∀ call ∈ (Server.new board controllers muxes).traffic events, call.fault? = none := by decide

/-- The second bus is left alone by what happens on the first one, a route that is live is not selected again, and
after the beliefs were given up even that one is, behind a deselect of the other multiplexer on its bus. -/
theorem traffic_necessary_by_turns : Selectable muxes ∧
    ((Server.new board controllers muxes).traffic events).map
      (fun call => (call.exchange.port.number, call.exchange.address, call.exchange.write)) =
      [(0, 0x70, [2]), (0, 0x48, [0]), (0, 0x20, [0]), (1, 0x70, [3, 0x80]), (1, 0x48, [0]), (0, 0x48, [0]),
        (0, 0x70, [0]), (0, 0x71, [0x80]), (0, 0x48, [0]), (0, 0x70, [0]), (0, 0x71, [0x80]), (0, 0x48, [0])] ∧
    NecessaryTraffic muxes [] events ((Server.new board controllers muxes).traffic events) :=
  ⟨selectable, rfl, Server.traffic_necessary selectable accepted fine⟩

end TwoBuses

end I2cTopology
