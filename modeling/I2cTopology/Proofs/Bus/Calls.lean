import I2cTopology.Proofs.Bus.Views

/-!
# The calls that a request makes

`Recorded` is a wire that keeps a record of what it was asked for. A server does over it what it does over the wire
itself (`Server.handle_mapWire`), so the record tells the calls that a request makes (`Server.calls`), whatever the
driver behind the wire is and whatever it answers.

- a run of control writes ends with the first one that fails (`Server.calls_carryOut`);
- a request makes control writes and then its own transaction, if nothing has failed by then, and its result says what
  has failed (`Server.Orderly.exists_accounted_record`);
- so it is in every state that a server can get into (`Server.conduct_of_reachable`).
-/

namespace I2cTopology

/-! ## Recorded wires -/

/-- A transaction that a wire was asked for, with its reply. -/
structure Call where
  exchange : Exchange
  buffer : Buffer
  reply : Reply BusFault

/-- What the transaction failed with. -/
def Call.fault? (c : Call) : Option BusFault :=
  match c.reply.result with
  | .ok _ => none
  | .error fault => some fault

/-- A wire with the transactions that it was asked for, oldest first. -/
structure Recorded (σ : Type) where
  wire : σ
  calls : List Call

namespace Server

variable {σ τ : Type} [Wire σ] [Wire τ]

instance : Wire (Recorded σ) where
  transact w x buffer :=
    let (reply, wire) := Wire.transact w.wire x buffer
    (reply, ⟨wire, w.calls ++ [⟨x, buffer, reply⟩]⟩)

/-! ## Another view of the wire -/

/-- The same server with another view of its wire. -/
def mapWire (f : σ → τ) (s : Server σ) : Server τ := ⟨f s.wire, s.controllers, s.muxes, s.buses⟩

/-- A view of a wire shows the replies as they are. -/
def IsView (f : σ → τ) : Prop :=
  ∀ wire x buffer, Wire.transact (f wire) x buffer =
    ((Wire.transact wire x buffer).1, f (Wire.transact wire x buffer).2)

theorem view_id {α β : Type} (f : α → β) (s : Server α) : s.view f id = s.mapWire f := by
  simp only [view, mapWire, List.map_id]

theorem IsView.shows {f : σ → τ} (hf : IsView f) (c : Controller) (p : PortIndex) : Shows (fun _ => True) f c p where
  kept _ _ _ _ _ _ := trivial
  transact wire x buffer _ _ _ := hf wire x buffer

/-- A server does over a view of its wire what it does over the wire. -/
theorem handle_mapWire {f : σ → τ} (hf : IsView f) (s : Server σ) (r : Request) (buffer : Buffer) :
    (s.mapWire f).handle r buffer =
      let served := s.handle r buffer
      ⟨served.reply, served.server.mapWire f, served.log⟩ := by
  have hbuses : ShowsBuses id r.controller r.port := ⟨fun _ => ⟨rfl, rfl⟩, fun _ _ => rfl⟩
  have hhandled := handle_view (hf.shows r.controller r.port) hbuses (s := s) trivial buffer
  simp only [view_id] at hhandled
  exact hhandled

/-! ## Recording a server -/

/-- The server with a record of its wire, in which nothing is written yet. -/
def recorded (s : Server σ) : Server (Recorded σ) := s.mapWire fun wire => ⟨wire, []⟩

/-- What a request asks the wire for, in order. -/
def calls (s : Server σ) (r : Request) (buffer : Buffer) : List Call := (s.recorded.handle r buffer).server.wire.calls

theorem calls_of_check_error {s : Server σ} {r : Request} {e : AccessError} (h : s.check r = .error e)
    (buffer : Buffer) : s.calls r buffer = [] := by
  have hrecorded : s.recorded.check r = .error e := h
  rw [calls, handle_of_check_error hrecorded]
  rfl

theorem isView_wire : IsView (Recorded.wire : Recorded σ → σ) := fun _ _ _ => rfl

/-- Recording changes nothing about what a server does. -/
theorem handle_eq_recorded (s : Server σ) (r : Request) (buffer : Buffer) :
    s.handle r buffer =
      let served := s.recorded.handle r buffer
      ⟨served.reply, served.server.mapWire Recorded.wire, served.log⟩ :=
  handle_mapWire isView_wire s.recorded r buffer

end Server

/-! ## Control writes on record -/

/-- The call puts this control write on the bus of a request, addressed to its multiplexer there. -/
def Call.Puts (muxes : List MuxDescriptor) (r : Request) (w : ControlWrite) (call : Call) : Prop :=
  ∃ m ∈ muxes, ∃ bytes, m.isOn r.controller r.port = true ∧ m.id = w.mux ∧
    Server.control? muxes w = .ok (m.address, bytes) ∧
    call.exchange = ⟨r.controller, r.port, m.address, .writeRead, bytes⟩ ∧ call.buffer = []

/-- The call puts some control write there. -/
def Call.IsControl (muxes : List MuxDescriptor) (r : Request) (call : Call) : Prop :=
  ∃ w : ControlWrite, call.Puts muxes r w

theorem Call.Puts.isControl {muxes : List MuxDescriptor} {r : Request} {w : ControlWrite} {call : Call}
    (h : call.Puts muxes r w) : call.IsControl muxes r := ⟨w, h⟩

namespace Server

variable {σ : Type} [Wire σ] {muxes : List MuxDescriptor} {r : Request}

/-- A control write that the server knows is one call, which fails exactly if the write does. -/
theorem exists_call_sendControl (hs : Selectable muxes) (target : Route) {w : ControlWrite}
    (hw : w.FitsBus muxes r.controller r.port) (wire : Recorded σ) :
    ∃ call : Call, call.Puts muxes r w ∧
      (sendControl muxes r target wire w).2.calls = wire.calls ++ [call] ∧
      ((call.fault? = none ∧ (sendControl muxes r target wire w).1 = .ok ()) ∨
        ∃ fault, call.fault? = some fault ∧
          (sendControl muxes r target wire w).1 = .error (.routingFailure target fault)) := by
  obtain ⟨m, hm, hon, hid, bytes, hcontrol, -, -⟩ := exists_control? hs hw
  generalize hx : (⟨r.controller, r.port, m.address, .writeRead, bytes⟩ : Exchange) = x
  refine ⟨⟨x, [], (Wire.transact wire.wire x []).1⟩, ⟨m, hm, bytes, hon, hid, hcontrol, hx.symm, rfl⟩, ?_⟩
  have hsend : sendControl muxes r target wire w =
      match (Wire.transact wire.wire x []).1.result with
      | .ok _ => (.ok (), ⟨(Wire.transact wire.wire x []).2, wire.calls ++ [⟨x, [], (Wire.transact wire.wire x []).1⟩]⟩)
      | .error fault => (.error (.routingFailure target fault),
          ⟨(Wire.transact wire.wire x []).2, wire.calls ++ [⟨x, [], (Wire.transact wire.wire x []).1⟩]⟩) := by
    subst hx
    simp only [sendControl, hcontrol]
    rfl
  rw [hsend]
  cases hresult : (Wire.transact wire.wire x []).1.result with
  | ok n =>
    refine ⟨rfl, Or.inl ⟨?_, rfl⟩⟩
    simp only [Call.fault?, hresult]
  | error fault =>
    refine ⟨rfl, Or.inr ⟨fault, ?_, rfl⟩⟩
    simp only [Call.fault?, hresult]

/-- A run of control writes is a run of calls that ends with the first one that fails. -/
theorem calls_carryOut (hs : Selectable muxes) (target : Route) {ws : List ControlWrite}
    (hf : ∀ w ∈ ws, w.FitsBus muxes r.controller r.port) (state : RoutingState) (wire : Recorded σ) :
    ∃ controls, (carryOut (sendControl muxes r target) state wire ws).wire.calls = wire.calls ++ controls ∧
      (∀ c ∈ controls, c.IsControl muxes r) ∧
      ((List.Forall₂ (Call.Puts muxes r) ws controls ∧ (∀ c ∈ controls, c.fault? = none) ∧
          (carryOut (sendControl muxes r target) state wire ws).result = .ok ()) ∨
        ∃ before failing fault, controls = before ++ [failing] ∧ (∀ c ∈ before, c.fault? = none) ∧
          failing.fault? = some fault ∧
          (carryOut (sendControl muxes r target) state wire ws).result = .error (.routingFailure target fault)) := by
  induction ws generalizing state wire with
  | nil => exact ⟨[], by simp [carryOut], by simp, Or.inl ⟨.nil, by simp, rfl⟩⟩
  | cons w ws ih =>
    obtain ⟨call, hputs, hrecord, hcases⟩ := exists_call_sendControl hs target (hf w List.mem_cons_self) wire
    generalize hsend : sendControl muxes r target wire w = sent at hrecord hcases
    obtain ⟨result, wire'⟩ := sent
    rcases hcases with ⟨hfine, hok⟩ | ⟨fault, hfault, herror⟩
    · obtain rfl : result = .ok () := hok
      obtain ⟨controls, hcalls, hcontrols, hresult⟩ :=
        ih (fun v hv => hf v (List.mem_cons_of_mem _ hv)) (state.after w) wire'
      unfold carryOut
      simp only [hsend]
      refine ⟨call :: controls, ?_, ?_, ?_⟩
      · rw [hcalls, hrecord, List.append_assoc, List.singleton_append]
      · exact List.forall_mem_cons.mpr ⟨hputs.isControl, hcontrols⟩
      · rcases hresult with ⟨hputsRest, hall, hrest⟩ | ⟨before, failing, fault, rfl, hbefore, hfailing, hrest⟩
        · exact Or.inl ⟨.cons hputs hputsRest, List.forall_mem_cons.mpr ⟨hfine, hall⟩, hrest⟩
        · exact Or.inr ⟨call :: before, failing, fault, rfl, List.forall_mem_cons.mpr ⟨hfine, hbefore⟩, hfailing, hrest⟩
    · obtain rfl : result = .error (.routingFailure target fault) := herror
      unfold carryOut
      simp only [hsend]
      refine ⟨[call], hrecord, ?_, Or.inr ⟨[], call, fault, rfl, by simp, hfault, rfl⟩⟩
      simpa using hputs.isControl

end Server

/-! ## Requests on record -/

/-- The control writes and the device transaction of a request, with its result. -/
inductive Accounted (checked : Except AccessError Unit) (r : Request) (buffer : Buffer) :
    List Call → List Call → Except AccessError Nat → Prop
  /-- The request does not pass the checks. -/
  | refused {e : AccessError} : checked = .error e → e.IsConfiguration → Accounted checked r buffer [] [] (.error e)
  /-- A control write failed. -/
  | unroutable {before : List Call} {failing : Call} {target : Route} {fault : BusFault} : checked = .ok () →
    r.route = some target → (∀ c ∈ before, c.fault? = none) → failing.fault? = some fault →
    Accounted checked r buffer (before ++ [failing]) [] (.error (.routingFailure target fault))
  | transacted {controls : List Call} {reply : Reply BusFault} : checked = .ok () →
    (r.route = none → controls = []) → (∀ c ∈ controls, c.fault? = none) →
    Accounted checked r buffer controls [⟨r.toExchange, buffer, reply⟩] (reply.result.mapError .busCommunication)

namespace Accounted

variable {checked : Except AccessError Unit} {r : Request} {buffer : Buffer} {controls device : List Call}
  {result : Except AccessError Nat} (h : Accounted checked r buffer controls device result)
include h

theorem device_eq : ∀ c ∈ device, c.exchange = r.toExchange ∧ c.buffer = buffer := by
  cases h with
  | refused _ _ => simp
  | unroutable _ _ _ _ => simp
  | transacted _ _ _ => simp

theorem length_device_le : device.length ≤ 1 := by
  cases h <;> simp

theorem controls_eq_nil (hroute : r.route = none) : controls = [] := by
  cases h with
  | refused _ _ => rfl
  | unroutable _ hsome _ _ => rw [hroute] at hsome; cases hsome
  | transacted _ hdirect _ => exact hdirect hroute

theorem device_ne_nil_iff : device ≠ [] ↔ checked = .ok () ∧ ∀ c ∈ controls, c.fault? = none := by
  cases h with
  | refused hchecked _ => simp [hchecked]
  | @unroutable before failing _ fault hchecked _ _ hfailing =>
    have hmem : failing ∈ before ++ [failing] := by simp
    refine ⟨fun hne => absurd rfl hne, fun ⟨_, hall⟩ => ?_⟩
    rw [hall failing hmem] at hfailing
    cases hfailing
  | transacted hchecked _ hfine => simpa [hchecked] using hfine

theorem fault?_of_mem_dropLast : ∀ c ∈ (controls ++ device).dropLast, c.fault? = none := by
  cases h with
  | refused _ _ => simp
  | unroutable _ _ hbefore _ => simpa using hbefore
  | transacted _ _ hfine => simpa using hfine

theorem routingFailure_iff (route : Route) (fault : BusFault) : result = .error (.routingFailure route fault) ↔
    r.route = some route ∧ ∃ c ∈ controls, c.fault? = some fault := by
  cases h with
  | @refused e _ he =>
    have hne : e ≠ .routingFailure route fault := fun heq => by
      rw [heq] at he
      exact he
    simp [hne]
  | @unroutable before failing target fault' _ htarget hbefore hfailing =>
    have hnone : ∀ c ∈ before, c.fault? ≠ some fault := fun c hc heq => by
      rw [hbefore c hc] at heq
      cases heq
    simp only [Except.error.injEq, AccessError.routingFailure.injEq, htarget, Option.some.injEq, List.mem_append,
      List.mem_singleton]
    constructor
    · rintro ⟨rfl, rfl⟩
      exact ⟨rfl, failing, Or.inr rfl, hfailing⟩
    · rintro ⟨rfl, c, hc | rfl, hfault⟩
      · exact absurd hfault (hnone c hc)
      · exact ⟨rfl, Option.some.inj (hfailing.symm.trans hfault)⟩
  | @transacted controls reply _ _ hfine =>
    have hnone : ¬∃ c ∈ controls, c.fault? = some fault := fun ⟨c, hc, heq⟩ => by
      rw [hfine c hc] at heq
      cases heq
    refine iff_of_false ?_ fun ⟨_, hsome⟩ => hnone hsome
    cases reply.result <;> simp [Except.mapError]

theorem busCommunication_iff (fault : BusFault) : result = .error (.busCommunication fault) ↔
    ∃ c ∈ device, c.fault? = some fault := by
  cases h with
  | @refused e _ he =>
    have hne : e ≠ .busCommunication fault := fun heq => by
      rw [heq] at he
      exact he
    simp [hne]
  | unroutable _ _ _ _ => simp
  | @transacted controls reply _ _ _ =>
    simp only [List.mem_singleton, exists_eq_left, Call.fault?]
    cases reply.result <;> simp [Except.mapError]

theorem ok_iff (n : Nat) : result = .ok n ↔ ∃ c ∈ device, c.reply.result = .ok n := by
  cases h with
  | refused _ _ => simp
  | unroutable _ _ _ _ => simp
  | @transacted controls reply _ _ _ =>
    simp only [List.mem_singleton, exists_eq_left]
    cases reply.result <;> simp [Except.mapError]

theorem configuration_iff {e : AccessError} (he : e.IsConfiguration) : result = .error e ↔ checked = .error e := by
  cases h with
  | refused hchecked _ => simp [hchecked]
  | unroutable hchecked _ _ _ =>
    rw [hchecked]
    refine iff_of_false (fun heq => ?_) nofun
    rw [← Except.error.inj heq] at he
    exact he
  | @transacted controls reply hchecked _ _ =>
    rw [hchecked]
    refine iff_of_false (fun heq => ?_) nofun
    cases hresult : reply.result with
    | ok n => rw [hresult] at heq; cases heq
    | error fault =>
      rw [hresult] at heq
      rw [← Except.error.inj heq] at he
      exact he

end Accounted

namespace Server

variable {σ : Type} [Wire σ] {s : Server (Recorded σ)} {r : Request} {buffer : Buffer}

/-- A device transaction is one call, and its result is that of the call. -/
theorem exists_call_transactDevice {bus : Bus} {served : Served (Recorded σ)} (ht : s.Transacted bus r buffer served) :
    ∃ reply : Reply BusFault, served.server.wire.calls = s.wire.calls ++ [⟨r.toExchange, buffer, reply⟩] ∧
      served.reply.result = reply.result.mapError .busCommunication := by
  refine ⟨(Wire.transact s.wire r.toExchange buffer).1, ?_, ?_⟩
  · cases ht <;> rfl
  · cases ht with
    | answered hresult => rw [hresult]; rfl
    | failed hresult _ => rw [hresult]; rfl
    | lost hresult _ => rw [hresult]; rfl

/-- What is added to the record by a request accounts for its result. -/
theorem Orderly.exists_accounted_record (h : s.Orderly) (hs : Selectable s.muxes) (r : Request) (buffer : Buffer) :
    ∃ controls device, (s.handle r buffer).server.wire.calls = s.wire.calls ++ (controls ++ device) ∧
      (∀ c ∈ controls, c.IsControl s.muxes r) ∧
      Accounted (s.check r) r buffer controls device (s.handle r buffer).reply.result := by
  have hhandled := h.handled r buffer
  generalize s.handle r buffer = served at hhandled
  cases hhandled with
  | refused hcheck => exact ⟨[], [], by simp, by simp, .refused hcheck (isConfiguration_of_check hcheck)⟩
  | direct hcheck _ _ ht =>
    obtain ⟨reply, hcalls, hresult⟩ := exists_call_transactDevice ht
    rw [hresult]
    exact ⟨[], [⟨r.toExchange, buffer, reply⟩], hcalls, by simp, .transacted hcheck (fun _ => rfl) (by simp)⟩
  | @unroutable bus target e hcheck hbus hroute hresult =>
    obtain ⟨hmuxes, hn⟩ := h.tracked _ _ _ hbus
    have hfits := fitsBus_of_mem_plan hs hmuxes hn (wiredOn_of_check hcheck hroute)
    obtain ⟨controls, hcalls, hcontrols, hcases⟩ := calls_carryOut hs target hfits bus.tracker.state s.wire
    have hrun := Tracker.carryOut_of_route_error hresult
    rcases hcases with ⟨-, -, hok⟩ | ⟨before, failing, fault, rfl, hbefore, hfailing, herror⟩
    · rw [hrun] at hok
      cases hok
    · obtain rfl := Except.error.inj (hrun.symm.trans herror)
      exact ⟨before ++ [failing], [], by rw [List.append_nil]; exact hcalls, hcontrols,
        .unroutable hcheck hroute hbefore hfailing⟩
  | @routed bus target action served hcheck hbus hroute hresult ht =>
    obtain ⟨hmuxes, hn⟩ := h.tracked _ _ _ hbus
    have hfits := fitsBus_of_mem_plan hs hmuxes hn (wiredOn_of_check hcheck hroute)
    obtain ⟨controls, hcalls, hcontrols, hcases⟩ := calls_carryOut hs target hfits bus.tracker.state s.wire
    have hrun := Tracker.carryOut_of_route_ok hresult
    rcases hcases with ⟨-, hfine, -⟩ | ⟨_, _, fault, -, -, -, herror⟩
    · obtain ⟨reply, hdevice, hreply⟩ := exists_call_transactDevice ht
      refine ⟨controls, [⟨r.toExchange, buffer, reply⟩], ?_, hcontrols, ?_⟩
      · show served.server.wire.calls = _
        rw [hdevice, ← List.append_assoc]
        exact congrArg (· ++ _) hcalls
      · show Accounted _ _ _ _ _ served.reply.result
        rw [hreply]
        exact .transacted hcheck (fun hnone => by rw [hroute] at hnone; cases hnone) hfine
    · rw [hrun] at herror
      cases herror

/-! ## Reachable servers -/

/-- What a request asks the wire for, control writes and a transaction with the device, and what becomes of it. -/
structure Conduct (s : Server σ) (r : Request) (buffer : Buffer) (controls device : List Call) : Prop where
  calls_eq : s.calls r buffer = controls ++ device
  /-- Control writes go to multiplexers on the bus of the request, and only if it has a route. -/
  control_fits : ∀ c ∈ controls, c.IsControl s.muxes r
  no_control : r.route = none → controls = []
  device_fits : ∀ c ∈ device, c.exchange = r.toExchange ∧ c.buffer = buffer
  device_once : device.length ≤ 1
  device_iff : device ≠ [] ↔ s.check r = .ok () ∧ ∀ c ∈ controls, c.fault? = none
  nothing_after_fault : ∀ c ∈ (s.calls r buffer).dropLast, c.fault? = none
  routingFailure_iff : ∀ route fault, (s.handle r buffer).reply.result = .error (.routingFailure route fault) ↔
    r.route = some route ∧ ∃ c ∈ controls, c.fault? = some fault
  busCommunication_iff : ∀ fault, (s.handle r buffer).reply.result = .error (.busCommunication fault) ↔
    ∃ c ∈ device, c.fault? = some fault
  ok_iff : ∀ n, (s.handle r buffer).reply.result = .ok n ↔ ∃ c ∈ device, c.reply.result = .ok n
  configuration_iff : ∀ e : AccessError, e.IsConfiguration →
    ((s.handle r buffer).reply.result = .error e ↔ s.check r = .error e)
  /-- A request that does not pass the checks does nothing at all. -/
  refused : ∀ e, s.check r = .error e → s.calls r buffer = [] ∧ (s.handle r buffer).server = s
  /-- Only the belief about the bus of the request changes. -/
  belief : ∀ c p, (s.handle r buffer).server.routingState? c p =
    if r.controller = c ∧ r.port = p then (s.routingState? c p).map (r.beliefAfter (s.handle r buffer).reply.result)
    else s.routingState? c p

/-- In any state that a server can get into over any wire, a request makes control writes on its bus and then its own
transaction, none after one that fails, and its result and the beliefs it leaves say which has failed. -/
theorem conduct_of_reachable {wire : σ} {controllers : List ControllerDescriptor} {muxes : List MuxDescriptor}
    (hm : Selectable muxes) {s : Server σ} (hs : (Server.new wire controllers muxes).Reachable s) (r : Request)
    (buffer : Buffer) : ∃ controls device, s.Conduct r buffer controls device := by
  obtain ⟨ho, -, hmuxes⟩ := hs.orderly (orderly_new wire controllers muxes)
  have hselectable : Selectable s.muxes := by
    rw [hmuxes]
    exact hm
  -- the buses and descriptors of the server on record are those of the server
  have horecorded : s.recorded.Orderly := ⟨ho.tracked, ho.served⟩
  obtain ⟨controls, device, hcalls, hcontrols, haccounted⟩ :=
    horecorded.exists_accounted_record hselectable r buffer
  have hcalls' : s.calls r buffer = controls ++ device := hcalls
  have hresult : (s.recorded.handle r buffer).reply.result = (s.handle r buffer).reply.result := by
    rw [handle_eq_recorded s]
  rw [hresult] at haccounted
  refine ⟨controls, device, hcalls', hcontrols, haccounted.controls_eq_nil, haccounted.device_eq,
    haccounted.length_device_le, haccounted.device_ne_nil_iff, ?_, haccounted.routingFailure_iff,
    haccounted.busCommunication_iff, haccounted.ok_iff, fun e he => haccounted.configuration_iff he,
    fun e he => ⟨?_, ?_⟩, ho.routingState?_handle hselectable r buffer⟩
  · rw [hcalls']
    exact haccounted.fault?_of_mem_dropLast
  · exact calls_of_check_error he buffer
  · rw [handle_of_check_error he]

end Server

/-! ## A failing deselection -/

namespace TwoBuses

def controllers : List ControllerDescriptor := [⟨⟨1⟩, .initiator, 2⟩, ⟨⟨2⟩, .target, 1⟩]

def muxes : List MuxDescriptor :=
  [⟨⟨4⟩, ⟨1⟩, ⟨0⟩, .pca9545, 0x70, 4, none⟩, ⟨⟨7⟩, ⟨1⟩, ⟨0⟩, .pca9548, 0x71, 8, none⟩,
    ⟨⟨5⟩, ⟨1⟩, ⟨1⟩, .ltc4306, 0x70, 2, none⟩]

def near : Request := ⟨⟨⟨1⟩, ⟨0⟩, 0x48, .writeRead, [0]⟩, ⟨3⟩, some ⟨⟨4⟩, ⟨2⟩⟩⟩

def far : Request := { near with route := some ⟨⟨7⟩, ⟨8⟩⟩ }

/-- A server that has just reached for the near device; the next write to its multiplexer will fail. -/
def server : Server SimBoard :=
  let s := ((Server.new (SimBoard.new muxes) controllers muxes).handle near [0]).server
  { s with wire := s.wire.failNext 0x70 .timeout }

theorem selectable : Selectable muxes := ⟨by decide, by decide⟩

theorem reachable : (Server.new (SimBoard.new muxes) controllers muxes).Reachable server :=
  .onWire _ (.handle near [0] .refl)

/-- The far device is behind another multiplexer; the near one's fails to let go, and the far route takes the blame. -/
theorem conduct_of_failing_deselection :
    Selectable muxes ∧ (Server.new (SimBoard.new muxes) controllers muxes).Reachable server ∧
      (server.handle far [0]).reply.result = .error (.routingFailure ⟨⟨7⟩, ⟨8⟩⟩ .timeout) ∧
      ∃ controls device, server.Conduct far [0] controls device :=
  ⟨selectable, reachable, rfl, Server.conduct_of_reachable selectable reachable far [0]⟩

end TwoBuses

end I2cTopology
