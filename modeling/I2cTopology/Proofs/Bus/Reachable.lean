import I2cTopology.Proofs.Bus.Service

/-!
# What a server makes of requests, over any wire

`Server.Handled` lists the four ways in which a request is handled, and `Server.Reachable` the states that a server can
get into. In all of them its buses are in order (`Server.Orderly`): each tracker knows the multiplexers on its bus and
names no others, so a request that passes the checks finds its bus, and no control write on its way is unknown to the
server.

- what a request does is one of the four ways (`Server.Orderly.handled`), and it keeps the buses in order
  (`Server.Orderly.handle`), so every reachable state is orderly (`Server.Reachable.orderly`);
- a request changes the belief about its own bus only, as its outcome demands (`Server.Orderly.routingState?_handle`).
-/

namespace I2cTopology

/-- The error says that a request does not fit the descriptors of the server. -/
def AccessError.IsConfiguration : AccessError → Prop
  | .badController _ | .badPort _ _ | .notInitiator _ | .muxNotFound _ | .segmentNotFound _ _ => True
  | .busCommunication _ | .routingFailure _ _ | .capabilityDenied _ _ => False

/-- What is believed of the bus of a request after the request has come to a result. -/
def Request.beliefAfter (r : Request) (result : Except AccessError Nat) (before : RoutingState) : RoutingState :=
  match result, r.route with
  | .ok _, some target => .segmentActive target
  | .error (.routingFailure _ _), _ => .unknown
  | .error (.busCommunication _), some _ => .unknown
  | _, _ => before

namespace Server

variable {σ : Type}

/-! ## Putting a bus back -/

theorem routingState?_leave (s : Server σ) (bus : Bus) (wire : σ) (c : Controller) (p : PortIndex) :
    (s.leave bus wire).routingState? c p =
      if bus.isOn c p then (s.routingState? c p).map fun _ => bus.tracker.state else s.routingState? c p := by
  unfold routingState?
  rw [find?_leave]
  split
  · rw [Option.map_map, Option.map_map]
    rfl
  · rfl

/-! ## Buses in order -/

/-- Each tracker knows the multiplexers on its bus and names no others, and each port of an initiator has its bus. -/
structure Orderly (s : Server σ) : Prop where
  tracked : ∀ c p bus, Bus.find? c p s.buses = some bus →
    bus.tracker.muxes = muxIdsOn s.muxes c p ∧ bus.tracker.state.Names bus.tracker.muxes
  served : ∀ c ∈ s.controllers, ∀ p, c.mode = .initiator → c.hasPort p = true →
    (Bus.find? c.controller p s.buses).isSome = true

theorem orderly_new (wire : σ) (controllers : List ControllerDescriptor) (muxes : List MuxDescriptor) :
    (Server.new wire controllers muxes).Orderly where
  tracked c p bus hb := by
    rw [tracker_of_find?_new hb]
    exact ⟨rfl, trivial⟩
  served _ hc _ hmode hport := isSome_find?_new wire muxes hc hmode hport

namespace Orderly

variable {s : Server σ}

theorem leave (h : s.Orderly) {bus : Bus} (hmuxes : bus.tracker.muxes = muxIdsOn s.muxes bus.controller bus.port)
    (hn : bus.tracker.state.Names bus.tracker.muxes) (wire : σ) : (s.leave bus wire).Orderly where
  tracked c p b hb := by
    rw [find?_leave] at hb
    split at hb
    · rename_i hon
      obtain ⟨_, -, rfl⟩ := Option.map_eq_some_iff.mp hb
      obtain ⟨rfl, rfl⟩ := Bus.isOn_iff.mp hon
      exact ⟨hmuxes, hn⟩
    · exact h.tracked c p b hb
  served c hc p hmode hport := by
    have hbus := h.served c hc p hmode hport
    rw [find?_leave]
    split
    · rw [Option.isSome_map]
      exact hbus
    · exact hbus

theorem believe (h : s.Orderly) {belief : Bus → RoutingState}
    (hn : ∀ bus ∈ s.buses, (belief bus).Names bus.tracker.muxes) (wire : σ) :
    ({ s.believe belief with wire } : Server σ).Orderly where
  tracked c p b hb := by
    replace hb : Bus.find? c p (s.believe belief).buses = some b := hb
    rw [find?_believe] at hb
    obtain ⟨old, hold, rfl⟩ := Option.map_eq_some_iff.mp hb
    exact ⟨(h.tracked c p old hold).1, hn old (List.mem_of_find?_eq_some hold)⟩
  served c hc p hmode hport := by
    show (Bus.find? c.controller p (s.believe belief).buses).isSome = true
    rw [find?_believe, Option.isSome_map]
    exact h.served c hc p hmode hport

end Orderly

/-! ## Handling a request -/

theorem isConfiguration_of_check {s : Server σ} {r : Request} {e : AccessError} (h : s.check r = .error e) :
    e.IsConfiguration := by
  unfold check at h
  split at h
  · cases h
    trivial
  · split at h
    · cases h
      trivial
    · split at h
      · cases h
        trivial
      · split at h
        · cases h
        · split at h
          · cases h
            trivial
          · split at h <;> cases h
            trivial

section

variable [Wire σ]

/-- A request that does not pass the checks does nothing at all. -/
theorem handle_of_check_error {s : Server σ} {r : Request} {e : AccessError} (h : s.check r = .error e)
    (buffer : Buffer) : s.handle r buffer = ⟨⟨.error e, buffer⟩, s, []⟩ := by
  unfold handle
  rw [h]

/-- Goes on with a request after its route was asked for. -/
def finish (s : Server σ) (bus : Bus) (r : Request) (buffer : Buffer) (routed : Tracker.Routed AccessError σ) :
    Served σ :=
  let bus := { bus with tracker := routed.tracker }
  let s := s.leave bus routed.wire
  match routed.result with
  | .error e => ⟨⟨.error e, buffer⟩, s, routed.log⟩
  | .ok _ =>
    let served := s.transactDevice bus r buffer
    { served with log := routed.log ++ served.log }

/-- A run of control writes that the server knows fails with a fault on the wire only, held against the route. -/
theorem error_carryOut_sendControl {muxes : List MuxDescriptor} (hs : Selectable muxes) {r : Request} {target : Route}
    {ws : List ControlWrite} (hf : ∀ w ∈ ws, w.FitsBus muxes r.controller r.port) {state : RoutingState} {wire : σ}
    {e : AccessError} (h : (carryOut (sendControl muxes r target) state wire ws).result = .error e) :
    ∃ fault, e = .routingFailure target fault := by
  induction ws generalizing state wire with
  | nil => cases h
  | cons w ws ih =>
    obtain ⟨m, -, -, -, bytes, hcontrol, -, -⟩ := exists_control? hs (hf w List.mem_cons_self)
    unfold carryOut at h
    simp only [sendControl, hcontrol] at h
    cases hresult : (Wire.transact wire ⟨r.controller, r.port, m.address, .writeRead, bytes⟩ []).1.result with
    | ok n =>
      simp only [hresult] at h
      exact ih (fun v hv => hf v (List.mem_cons_of_mem _ hv)) h
    | error fault =>
      simp only [hresult, Except.error.injEq] at h
      exact ⟨fault, h.symm⟩

/-- What a device transaction leaves. -/
inductive Transacted (s : Server σ) (bus : Bus) (r : Request) (buffer : Buffer) : Served σ → Prop
  | answered {n : Nat} : (Wire.transact s.wire r.toExchange buffer).1.result = .ok n →
    Transacted s bus r buffer ⟨⟨.ok n, (Wire.transact s.wire r.toExchange buffer).1.buffer⟩,
      s.leave bus (Wire.transact s.wire r.toExchange buffer).2, []⟩
  /-- It failed without a route that could be to blame. -/
  | failed {fault : BusFault} : (Wire.transact s.wire r.toExchange buffer).1.result = .error fault → r.route = none →
    Transacted s bus r buffer
      ⟨⟨.error (.busCommunication fault), (Wire.transact s.wire r.toExchange buffer).1.buffer⟩,
        s.leave bus (Wire.transact s.wire r.toExchange buffer).2, faultLog r fault⟩
  /-- It failed behind a multiplexer, so the belief is given up. -/
  | lost {fault : BusFault} {target : Route} :
    (Wire.transact s.wire r.toExchange buffer).1.result = .error fault → r.route = some target →
    Transacted s bus r buffer
      ⟨⟨.error (.busCommunication fault), (Wire.transact s.wire r.toExchange buffer).1.buffer⟩,
        (s.leave bus (Wire.transact s.wire r.toExchange buffer).2).leave
          { bus with tracker := bus.tracker.markUnknown } (Wire.transact s.wire r.toExchange buffer).2,
        faultLog r fault ++ bus.tracker.discardLog⟩

theorem transacted (s : Server σ) (bus : Bus) (r : Request) (buffer : Buffer) :
    s.Transacted bus r buffer (s.transactDevice bus r buffer) := by
  unfold transactDevice
  cases hresult : (Wire.transact s.wire r.toExchange buffer).1.result with
  | ok n =>
    simp only [hresult]
    exact .answered hresult
  | error fault =>
    simp only [hresult]
    cases hroute : r.route with
    | none => exact .failed hresult hroute
    | some target => exact .lost hresult hroute

/-- How a request is handled. -/
inductive Handled (s : Server σ) (r : Request) (buffer : Buffer) : Served σ → Prop
  /-- It does not pass the checks. -/
  | refused {e : AccessError} : s.check r = .error e → Handled s r buffer ⟨⟨.error e, buffer⟩, s, []⟩
  /-- It needs no route. -/
  | direct {bus : Bus} {served : Served σ} : s.check r = .ok () → Bus.find? r.controller r.port s.buses = some bus →
    r.route = none → s.Transacted bus r buffer served → Handled s r buffer served
  /-- Its route could not be made live. -/
  | unroutable {bus : Bus} {target : Route} {e : AccessError} : s.check r = .ok () →
    Bus.find? r.controller r.port s.buses = some bus → r.route = some target →
    (s.route bus r target).result = .error e →
    Handled s r buffer ⟨⟨.error e, buffer⟩, s.afterRoute bus r target, (s.route bus r target).log⟩
  /-- Its route was made live. -/
  | routed {bus : Bus} {target : Route} {action : RouteAction} {served : Served σ} : s.check r = .ok () →
    Bus.find? r.controller r.port s.buses = some bus → r.route = some target →
    (s.route bus r target).result = .ok action →
    (s.afterRoute bus r target).Transacted { bus with tracker := (s.route bus r target).tracker } r buffer served →
    Handled s r buffer { served with log := (s.route bus r target).log ++ served.log }

namespace Orderly

variable {s : Server σ} {r : Request} {buffer : Buffer}

theorem handled (h : s.Orderly) (r : Request) (buffer : Buffer) : s.Handled r buffer (s.handle r buffer) := by
  unfold Server.handle
  cases hcheck : s.check r with
  | error e => exact .refused hcheck
  | ok _ =>
    obtain ⟨bus, hbus⟩ := exists_bus h.served hcheck
    simp only [hbus]
    cases hroute : r.route with
    | none => exact .direct hcheck hbus hroute (s.transacted bus r buffer)
    | some target =>
      show s.Handled r buffer (s.finish bus r buffer (s.route bus r target))
      unfold finish
      cases hresult : (s.route bus r target).result with
      | error e => exact .unroutable hcheck hbus hroute hresult
      | ok action => exact .routed hcheck hbus hroute hresult (transacted _ _ r buffer)

/-! ### Keeping the buses in order -/

theorem transactDevice (h : s.Orderly) {bus : Bus} {served : Served σ} (ht : s.Transacted bus r buffer served)
    (hmuxes : bus.tracker.muxes = muxIdsOn s.muxes bus.controller bus.port)
    (hn : bus.tracker.state.Names bus.tracker.muxes) :
    served.server.Orderly ∧ served.server.controllers = s.controllers ∧ served.server.muxes = s.muxes := by
  have hleft := h.leave hmuxes hn (Wire.transact s.wire r.toExchange buffer).2
  cases ht with
  | answered _ => exact ⟨hleft, rfl, rfl⟩
  | failed _ _ => exact ⟨hleft, rfl, rfl⟩
  | lost _ _ =>
    refine ⟨hleft.leave ?_ ?_ _, rfl, rfl⟩
    · exact hmuxes
    · trivial

/-- The tracker that has made a route on its bus live still knows its own multiplexers and names no others. -/
theorem tracker_route (h : s.Orderly) {bus : Bus} (hbus : Bus.find? r.controller r.port s.buses = some bus)
    {target : Route} (hwired : target.WiredOn s.muxes r.controller r.port) :
    (s.route bus r target).tracker.muxes = muxIdsOn s.muxes bus.controller bus.port ∧
      (s.route bus r target).tracker.state.Names (s.route bus r target).tracker.muxes := by
  obtain ⟨hc, hp⟩ := Bus.isOn_of_find? hbus
  obtain ⟨hmuxes, -⟩ := h.tracked _ _ _ hbus
  have hmem : target.mux ∈ bus.tracker.muxes := hmuxes ▸ hwired.mux_mem
  refine ⟨?_, Tracker.names_route hmem⟩
  show bus.tracker.muxes = _
  rw [hc, hp, hmuxes]

theorem afterRoute (h : s.Orderly) {bus : Bus} (hbus : Bus.find? r.controller r.port s.buses = some bus)
    {target : Route} (hwired : target.WiredOn s.muxes r.controller r.port) : (s.afterRoute bus r target).Orderly := by
  obtain ⟨hmuxes, hn⟩ := h.tracker_route hbus hwired
  refine h.leave ?_ ?_ _
  · exact hmuxes
  · exact hn

/-- A request keeps the buses in order and the descriptors as they are. -/
theorem handle (h : s.Orderly) (r : Request) (buffer : Buffer) :
    (s.handle r buffer).server.Orderly ∧ (s.handle r buffer).server.controllers = s.controllers ∧
      (s.handle r buffer).server.muxes = s.muxes := by
  have hhandled := h.handled r buffer
  generalize s.handle r buffer = served at hhandled
  cases hhandled with
  | refused _ => exact ⟨h, rfl, rfl⟩
  | @direct bus _ hcheck hbus _ ht =>
    obtain ⟨hc, hp⟩ := Bus.isOn_of_find? hbus
    obtain ⟨hmuxes, hn⟩ := h.tracked _ _ _ hbus
    rw [← hc, ← hp] at hmuxes
    exact h.transactDevice ht hmuxes hn
  | unroutable hcheck hbus hroute _ => exact ⟨h.afterRoute hbus (wiredOn_of_check hcheck hroute), rfl, rfl⟩
  | routed hcheck hbus hroute _ ht =>
    have hwired := wiredOn_of_check hcheck hroute
    obtain ⟨hmuxes, hn⟩ := h.tracker_route hbus hwired
    have hkept := (h.afterRoute hbus hwired).transactDevice ht hmuxes hn
    exact hkept

/-! ### Beliefs -/

theorem result_cases {bus : Bus} {served : Served σ} (ht : s.Transacted bus r buffer served) :
    (∃ n, served.reply.result = .ok n) ∨ ∃ fault, served.reply.result = .error (.busCommunication fault) := by
  cases ht with
  | @answered n _ => exact Or.inl ⟨n, rfl⟩
  | @failed fault _ _ => exact Or.inr ⟨fault, rfl⟩
  | @lost fault _ _ _ => exact Or.inr ⟨fault, rfl⟩

/-- Over a route the belief before a device transaction has no say. -/
theorem beliefAfter_transacted {bus : Bus} {served : Served σ} (ht : s.Transacted bus r buffer served) {target : Route}
    (hroute : r.route = some target) (before before' : RoutingState) :
    r.beliefAfter served.reply.result before = r.beliefAfter served.reply.result before' := by
  rcases result_cases ht with ⟨n, hn⟩ | ⟨fault, he⟩
  · simp only [hn, Request.beliefAfter, hroute]
  · simp only [he, Request.beliefAfter, hroute]

/-- A device transaction over a live route changes the belief about its own bus only. -/
theorem routingState?_transactDevice {bus : Bus} {served : Served σ} (ht : s.Transacted bus r buffer served)
    (hlive : ∀ target, r.route = some target → bus.tracker.state = .segmentActive target) (c : Controller)
    (p : PortIndex) :
    served.server.routingState? c p =
      if bus.isOn c p then (s.routingState? c p).map fun _ => r.beliefAfter served.reply.result bus.tracker.state
      else s.routingState? c p := by
  cases ht with
  | @answered n _ =>
    have hbelief : r.beliefAfter (.ok n) bus.tracker.state = bus.tracker.state := by
      unfold Request.beliefAfter
      cases hroute : r.route with
      | none => rfl
      | some target => rw [hlive target hroute]
    simp only [hbelief]
    exact routingState?_leave s bus _ c p
  | failed _ hroute =>
    simp only [Request.beliefAfter, hroute]
    exact routingState?_leave s bus _ c p
  | lost _ hroute =>
    have hsame : ({ bus with tracker := bus.tracker.markUnknown } : Bus).isOn c p = bus.isOn c p := rfl
    simp only [Request.beliefAfter, hroute, routingState?_leave, hsame]
    split
    · rw [Option.map_map]
      rfl
    · rfl

/-- A route is made live, or a fault on the wire is held against it and the belief is given up. -/
theorem route_cases (h : s.Orderly) (hs : Selectable s.muxes) {bus : Bus}
    (hbus : Bus.find? r.controller r.port s.buses = some bus) {target : Route}
    (hwired : target.WiredOn s.muxes r.controller r.port) :
    (∃ action, (s.route bus r target).result = .ok action ∧
        (s.route bus r target).tracker.state = .segmentActive target) ∨
      ∃ fault, (s.route bus r target).result = .error (.routingFailure target fault) ∧
        (s.route bus r target).tracker.state = .unknown := by
  cases hresult : (s.route bus r target).result with
  | ok action => exact Or.inl ⟨action, rfl, Tracker.state_route_of_ok hresult⟩
  | error e =>
    obtain ⟨hmuxes, hn⟩ := h.tracked _ _ _ hbus
    have hfits := Server.fitsBus_of_mem_plan hs hmuxes hn hwired
    obtain ⟨fault, rfl⟩ := error_carryOut_sendControl hs hfits (Tracker.carryOut_of_route_error hresult)
    exact Or.inr ⟨fault, rfl, Tracker.state_route_of_error hresult⟩

/-- A request fails with a configuration error exactly if it does not pass the checks. -/
theorem isConfiguration_iff (h : s.Orderly) (hs : Selectable s.muxes) (r : Request) (buffer : Buffer) :
    (∃ e, (s.handle r buffer).reply.result = .error e ∧ e.IsConfiguration) ↔ s.check r ≠ .ok () := by
  have hhandled := h.handled r buffer
  generalize s.handle r buffer = served at hhandled
  have hdevice : ∀ {s : Server σ} {bus : Bus} {served : Served σ}, s.Transacted bus r buffer served →
      ¬∃ e, served.reply.result = .error e ∧ e.IsConfiguration := fun ht ⟨e, he, hconfiguration⟩ => by
    rcases result_cases ht with ⟨n, hn⟩ | ⟨fault, hfault⟩
    · rw [hn] at he
      cases he
    · rw [hfault] at he
      cases he
      exact hconfiguration
  cases hhandled with
  | @refused e hcheck => simp [hcheck, isConfiguration_of_check hcheck]
  | direct hcheck _ _ ht => exact iff_of_false (hdevice ht) fun hne => hne hcheck
  | @unroutable bus target e hcheck hbus hroute hresult =>
    refine iff_of_false ?_ fun hne => hne hcheck
    rintro ⟨_, he, hconfiguration⟩
    obtain rfl := Except.error.inj he
    rcases h.route_cases hs hbus (wiredOn_of_check hcheck hroute) with ⟨action, hok, -⟩ | ⟨fault, hfault, -⟩
    · rw [hresult] at hok
      cases hok
    · obtain rfl := Except.error.inj (hresult.symm.trans hfault)
      exact hconfiguration
  | @routed bus target action served hcheck _ _ _ ht =>
    have hno := hdevice ht
    exact iff_of_false hno fun hne => hne hcheck

theorem routingState?_afterRoute (s : Server σ) (bus : Bus) (r : Request) (target : Route) (c : Controller)
    (p : PortIndex) : (s.afterRoute bus r target).routingState? c p =
      if bus.isOn c p then (s.routingState? c p).map fun _ => (s.route bus r target).tracker.state
      else s.routingState? c p :=
  routingState?_leave s _ _ c p

/-- A request changes the belief about its own bus only, and to what its result demands. -/
theorem routingState?_handle (h : s.Orderly) (hs : Selectable s.muxes) (r : Request) (buffer : Buffer) (c : Controller)
    (p : PortIndex) :
    (s.handle r buffer).server.routingState? c p =
      if r.controller = c ∧ r.port = p then
        (s.routingState? c p).map (r.beliefAfter (s.handle r buffer).reply.result)
      else s.routingState? c p := by
  have hown : ∀ bus, Bus.find? r.controller r.port s.buses = some bus →
      bus.isOn c p = decide (r.controller = c ∧ r.port = p) ∧
        s.routingState? r.controller r.port = some bus.tracker.state := fun bus hbus => by
    obtain ⟨hc, hp⟩ := Bus.isOn_of_find? hbus
    refine ⟨?_, by rw [routingState?, hbus]; rfl⟩
    rw [Bool.eq_iff_iff, Bus.isOn_iff, decide_eq_true_iff, hc, hp]
  have hhandled := h.handled r buffer
  generalize s.handle r buffer = served at hhandled
  cases hhandled with
  | @refused e hcheck =>
    have hkeeps : r.beliefAfter (.error e) = id := by
      have hconfiguration := isConfiguration_of_check hcheck
      cases e <;> first | exact hconfiguration.elim | rfl
    rw [hkeeps, Option.map_id, id, ite_self]
  | @direct bus _ hcheck hbus hroute ht =>
    obtain ⟨hon, hbelief⟩ := hown bus hbus
    rw [routingState?_transactDevice ht (by simp [hroute]), hon]
    simp only [decide_eq_true_eq]
    split
    · rename_i hsame
      obtain ⟨rfl, rfl⟩ := hsame
      rw [hbelief]
      rfl
    · rfl
  | @unroutable bus target e hcheck hbus hroute hresult =>
    obtain ⟨hon, -⟩ := hown bus hbus
    rcases h.route_cases hs hbus (wiredOn_of_check hcheck hroute) with ⟨action, hok, -⟩ | ⟨fault, he, hstate⟩
    · rw [hresult] at hok
      cases hok
    · obtain rfl := Except.error.inj (hresult.symm.trans he)
      rw [routingState?_afterRoute, hon, hstate]
      simp only [decide_eq_true_eq]
      rfl
  | @routed bus target action served hcheck hbus hroute hresult ht =>
    obtain ⟨hon, -⟩ := hown bus hbus
    have hstate : (s.route bus r target).tracker.state = .segmentActive target := Tracker.state_route_of_ok hresult
    have hlive : ∀ target', r.route = some target' →
        (s.route bus r target).tracker.state = .segmentActive target' := fun target' hroute' => by
      rw [hstate, Option.some.inj (hroute.symm.trans hroute')]
    have hbelief := routingState?_transactDevice ht hlive c p
    have hsame : ({ bus with tracker := (s.route bus r target).tracker } : Bus).isOn c p = bus.isOn c p := rfl
    rw [routingState?_afterRoute, hsame, hon] at hbelief
    simp only [decide_eq_true_eq] at hbelief
    rw [hbelief]
    by_cases hc : r.controller = c ∧ r.port = p
    · simp only [if_pos hc, Option.map_map]
      exact Option.map_congr fun before _ => beliefAfter_transacted ht hroute _ before
    · simp only [if_neg hc]

end Orderly

/-! ## Reachable states -/

/-- The states that a server gets into from a start. -/
inductive Reachable (start : Server σ) : Server σ → Prop
  | refl : Reachable start start
  | handle {s : Server σ} (r : Request) (buffer : Buffer) : Reachable start s →
    Reachable start (s.handle r buffer).server
  | discardRouting {s : Server σ} : Reachable start s → Reachable start s.discardRouting
  /-- The wire changes without the server. -/
  | onWire {s : Server σ} (wire : σ) : Reachable start s → Reachable start { s with wire }
  /-- A request is interrupted amid its calls, which leaves beliefs that name multiplexers of their own bus. -/
  | interrupt {s : Server σ} (belief : Bus → RoutingState) (wire : σ) : Reachable start s →
    (∀ bus ∈ s.buses, (belief bus).Names bus.tracker.muxes) → Reachable start { s.believe belief with wire }

/-- In every reachable state the buses are in order and the descriptors are as they were. -/
theorem Reachable.orderly {start s : Server σ} (h : start.Reachable s) (hstart : start.Orderly) :
    s.Orderly ∧ s.controllers = start.controllers ∧ s.muxes = start.muxes := by
  induction h with
  | refl => exact ⟨hstart, rfl, rfl⟩
  | handle r buffer _ ih =>
    obtain ⟨ho, hc, hm⟩ := ih
    obtain ⟨ho', hc', hm'⟩ := ho.handle r buffer
    exact ⟨ho', hc'.trans hc, hm'.trans hm⟩
  | @discardRouting s _ ih =>
    obtain ⟨ho, hc, hm⟩ := ih
    have hgiven := @Orderly.believe σ s ho (fun _ => .unknown) (fun _ _ => trivial) s.wire
    exact ⟨hgiven, hc, hm⟩
  | onWire _ _ ih =>
    obtain ⟨ho, hc, hm⟩ := ih
    exact ⟨⟨ho.tracked, ho.served⟩, hc, hm⟩
  | interrupt _ wire _ hn ih =>
    obtain ⟨ho, hc, hm⟩ := ih
    exact ⟨ho.believe hn wire, hc, hm⟩

/-- Whoever takes the lock finds the server in a state that it can get into. -/
theorem Reachable.lock {start s : Server σ} (h : start.Reachable s) (poisoned : Bool) :
    start.Reachable (Client.lock ⟨s, poisoned⟩).1 := by
  cases poisoned with
  | true => exact h.discardRouting
  | false => exact h

end

end Server

/-- A request by the owner of its handle is handled once the lock is taken, which is then in order. -/
theorem Client.send_of_owner {σ : Type} [Wire σ] {c : Client σ} {r : Request} (h : r.owner = c.task)
    (buffer : Buffer) : c.send r buffer =
      let served := (lock c.shared).1.handle r buffer
      ⟨served.reply, { c with shared := ⟨served.server, false⟩ }, (lock c.shared).2 ++ served.log⟩ := by
  unfold send
  rw [if_neg fun hne => hne h]

end I2cTopology
