import I2cTopology.Proofs.Bus.FlatStore

/-!
# Recovery from an interrupted holder of the lock

Whoever was interrupted with the lock in hand may have left any beliefs and any latches, on every bus. The first
operation that is let through gives all beliefs up, so the invariant of `Layout.Guards` holds again, which asks for
nothing while the lock is poisoned. From then on beliefs are right, and an operation over a route that succeeds ran
while just that route was connected (`SharedServer.recovers`).
-/

namespace I2cTopology

/-- A server over a board with the given multiplexers, as it was built but for its beliefs and the latches. -/
structure Server.BuiltOn (muxes : List MuxDescriptor) (s : Server SimBoard) : Prop where
  muxes_eq : s.muxes = muxes
  carries : s.wire.Carries muxes
  buses_eq : s.buses.map (fun b => { b with tracker := .new b.tracker.muxes }) =
    (Server.new s.wire s.controllers muxes).buses

/-- The operations address no multiplexer, and nobody is interrupted. -/
def Event.Undisturbed (muxes : List MuxDescriptor) : Event → Prop
  | .interrupt _ _ => False
  | e => e.OffMuxes muxes

theorem Event.Undisturbed.offMuxes {muxes : List MuxDescriptor} {e : Event} (h : e.Undisturbed muxes) :
    e.OffMuxes muxes := by
  cases e with
  | interrupt _ _ => trivial
  | _ => exact h

/-- A server knows the layout of the board that it was built on. -/
theorem Server.BuiltOn.holds {muxes : List MuxDescriptor} {s : Server SimBoard} (h : s.BuiltOn muxes) :
    Layout.Holds ⟨s.controllers, muxes, s.wire.devices.map (·.toDevicePlace)⟩ s := by
  have hfind : ∀ c p, (Bus.find? c p s.buses).map (fun b => { b with tracker := .new b.tracker.muxes }) =
      Bus.find? c p (Server.new s.wire s.controllers muxes).buses := fun c p => by
    rw [← h.buses_eq]
    refine (Bus.find?_map ?_ c p s.buses).symm
    exact fun _ => ⟨rfl, rfl⟩
  refine ⟨rfl, h.muxes_eq, h.carries, rfl, fun c p bus hbus => ?_, fun c hc p hmode hport => ?_⟩
  · have hnew := hfind c p
    rw [hbus] at hnew
    exact congrArg Tracker.muxes (tracker_of_find?_new hnew.symm)
  · have hsome := isSome_find?_new s.wire muxes hc hmode hport
    rw [← hfind, Option.isSome_map] at hsome
    exact hsome

namespace SharedServer

variable {muxes : List MuxDescriptor} {s : SharedServer SimBoard}

/-- An operation over a route that succeeds is answered on a board on which just that route is connected. -/
def RunsLive (s : SharedServer SimBoard) (muxes : List MuxDescriptor) (task : TaskId) (handle : DeviceHandle)
    (operation : Operation) : Prop :=
  ∀ reply n target, (s.react (.operate task handle operation)).1 = .replied task handle operation reply →
    reply.result = .ok n → handle.route = some target → ∃ (board : SimBoard) (answer : Nat × Buffer),
      (RoutingState.segmentActive target).Describes (muxIdsOn muxes handle.controller handle.port) board.selected ∧
        board.transact (handle.request operation.op operation.bytes).toExchange operation.buffer =
          (⟨.ok answer.1, answer.2⟩, (s.react (.operate task handle operation)).2.server.wire) ∧
        reply = operation.seen (.answer answer)

/-- The lock is in order, what is believed to be connected is, and operations run over live routes. -/
structure Recovered (muxes : List MuxDescriptor) (s : SharedServer SimBoard) : Prop where
  mended : s.poisoned = false
  connected : ∀ c p route, s.server.routingState? c p = some (.segmentActive route) →
    (RoutingState.segmentActive route).Describes (muxIdsOn muxes c p) s.server.wire.selected
  runs_live : ∀ task (handle : DeviceHandle) operation, handle.toDevicePlace.OffMuxes muxes →
    s.RunsLive muxes task handle operation

/-- The first operation of an owner finds every belief given up. -/
structure StartsAfresh (s : SharedServer SimBoard) (handle : DeviceHandle) (operation : Operation) : Prop where
  mended : (s.react (.operate handle.owner handle operation)).2.poisoned = false
  served : (s.react (.operate handle.owner handle operation)).2.server =
    (s.server.discardRouting.handle (handle.request operation.op operation.bytes) operation.buffer).server
  unknown : ∀ bus ∈ s.server.discardRouting.buses, bus.tracker.state = .unknown
  /-- That is so even if the operation then fails the checks. -/
  refused : ∀ e, s.server.check (handle.request operation.op operation.bytes) = .error e →
    (s.react (.operate handle.owner handle operation)).1 =
        .replied handle.owner handle operation ⟨.error e, operation.buffer⟩ ∧
      (s.react (.operate handle.owner handle operation)).2.server = s.server.discardRouting

/-- An operation through a guarded lock runs over a live route. -/
theorem runsLive {l : Layout} (h : l.Guards s) (hw : WellWired l.muxes) (task : TaskId) {handle : DeviceHandle}
    (operation : Operation) (hoff : handle.toDevicePlace.OffMuxes l.muxes) :
    s.RunsLive l.muxes task handle operation := by
  intro reply n target hreply hn htarget
  by_cases howner : handle.owner = task
  · subst howner
    obtain ⟨hholds, hright, -⟩ := h.lock
    have hkept := hholds.kept_handle (r := handle.request operation.op operation.bytes) hw hright hoff operation.buffer
    rw [s.react_operate_owner] at hreply ⊢
    obtain rfl : operation.seen (s.serve handle operation).reply = reply := by
      injection hreply
    obtain ⟨m, hm⟩ := operation.exists_ok_of_seen hn
    obtain ⟨board, hlive, hran⟩ := hkept.ran_live m target hm htarget
    refine ⟨board, ⟨m, (s.serve handle operation).reply.buffer⟩, hlive, hran, ?_⟩
    rw [Reply.answer, ← hm]
  · rw [react_operate_of_ne howner] at hreply
    obtain rfl : Reply.mk (.error (.capabilityDenied handle.owner task)) operation.buffer = reply := by
      injection hreply
    cases hn

/-- While the lock is in order, a guarded server has recovered. -/
theorem recovered {l : Layout} (h : l.Guards s) (hw : WellWired l.muxes) (hp : s.poisoned = false) :
    s.Recovered l.muxes where
  mended := hp
  connected c p route hbelief := by
    obtain ⟨bus, hbus, hstate⟩ := Option.map_eq_some_iff.mp hbelief
    have hd := h.right hp c p bus hbus
    rw [hstate, h.holds.tracked c p bus hbus] at hd
    exact hd
  runs_live task _ operation hoff := runsLive h hw task operation hoff

/-! ### Runs of events -/

/-- What each event of a run keeps, the run keeps. -/
theorem run_keeps (keeps : SharedServer SimBoard → Prop) {events : List Event}
    (hstep : ∀ e ∈ events, ∀ s : SharedServer SimBoard, keeps s → keeps (s.react e).2) {s : SharedServer SimBoard}
    (h : keeps s) : keeps (s.run events).2 := by
  induction events generalizing s with
  | nil => exact h
  | cons e es ih => exact ih (fun f hf => hstep f (List.mem_cons_of_mem _ hf)) (hstep e List.mem_cons_self s h)

/-- Unless it is interrupted, nobody leaves the lock poisoned. -/
theorem mended_react {e : Event} (he : e.Undisturbed muxes) (hp : s.poisoned = false) :
    (s.react e).2.poisoned = false := by
  cases e with
  | operate task handle operation =>
    by_cases howner : handle.owner = task
    · subst howner
      rw [s.react_operate_owner]
    · rw [react_operate_of_ne howner]
      exact hp
  | failNext _ _ => exact hp
  | discardRouting => exact hp
  | interrupt _ _ => exact he.elim

theorem mended_run {events : List Event} (hevents : ∀ e ∈ events, e.Undisturbed muxes) (hp : s.poisoned = false) :
    (s.run events).2.poisoned = false :=
  run_keeps (·.poisoned = false) (fun e he _ => mended_react (hevents e he)) hp

theorem guards_run {l : Layout} (hw : WellWired l.muxes) {events : List Event}
    (hevents : ∀ e ∈ events, e.OffMuxes l.muxes) (h : l.Guards s) : l.Guards (s.run events).2 :=
  run_keeps l.Guards (fun e he _ hs => hs.react hw (hevents e he)) h

/-! ### After an interruption -/

/-- The first operation of an owner after an interruption. -/
theorem startsAfresh (hp : s.poisoned = true) (handle : DeviceHandle) (operation : Operation) :
    s.StartsAfresh handle operation := by
  have hserve : s.serve handle operation = s.server.discardRouting.handle (handle.request operation.op operation.bytes)
      operation.buffer := by
    unfold serve Client.lock
    rw [hp]
    rfl
  refine ⟨?_, ?_, fun bus hbus => ?_, fun e he => ?_⟩
  · rw [s.react_operate_owner]
  · rw [s.react_operate_owner, hserve]
  · obtain ⟨_, -, rfl⟩ := List.mem_map.mp hbus
    rfl
  · have hrefused : s.server.discardRouting.check (handle.request operation.op operation.bytes) = .error e := he
    rw [s.react_operate_owner, hserve, Server.handle_of_check_error hrefused, operation.seen_error]
    exact ⟨rfl, rfl⟩

/-- **Recovery.** After an interruption, which may have left any beliefs and any latches on every bus, an operation
that is denied changes nothing; the first operation of an owner mends the lock and starts with every belief given up;
and from then on, whatever is operated and whichever faults are injected, what is believed to be connected is, and
every operation that succeeds over a route ran while just that route was connected. -/
theorem recovers (hw : WellWired muxes) (hs : s.server.BuiltOn muxes) (hp : s.poisoned = true) :
    (∀ task (handle : DeviceHandle) operation, handle.owner ≠ task → s.react (.operate task handle operation) =
      (.replied task handle operation ⟨.error (.capabilityDenied handle.owner task), operation.buffer⟩, s)) ∧
    ∀ (handle : DeviceHandle) operation, s.StartsAfresh handle operation ∧
      (handle.toDevicePlace.OffMuxes muxes → s.RunsLive muxes handle.owner handle operation ∧
        ∀ events, (∀ e ∈ events, Event.Undisturbed muxes e) →
          Recovered muxes ((s.react (.operate handle.owner handle operation)).2.run events).2) := by
  have hguards : Layout.Guards ⟨s.server.controllers, muxes, s.server.wire.devices.map (·.toDevicePlace)⟩ s :=
    ⟨hs.holds, fun hmended => by rw [hp] at hmended; cases hmended⟩
  refine ⟨fun task handle operation howner => react_operate_of_ne howner operation, fun handle operation => ?_⟩
  have hfresh := startsAfresh hp handle operation
  refine ⟨hfresh, fun hoff => ⟨runsLive hguards hw handle.owner operation hoff, fun events hevents => ?_⟩⟩
  have hfirst := hguards.react (e := .operate handle.owner handle operation) hw hoff
  have hafter := guards_run hw (fun e he => (hevents e he).offMuxes) hfirst
  exact recovered hafter hw (mended_run hevents hfresh.mended)

end SharedServer

/-! ## A holder that lied -/

namespace TwoMuxes

/-- Both multiplexers connect their second segment, and the tracker believes neither. -/
def interrupted : SharedServer SimBoard :=
  ((SharedServer.new controllers muxes devices).react
    (.interrupt (fun _ => .segmentActive ⟨⟨0⟩, ⟨3⟩⟩) (fun _ => some ⟨2⟩))).2

def later : List Event :=
  [.failNext 0x70 .timeout, .operate ⟨2⟩ (far.bind ⟨2⟩) (.write [1]), .operate ⟨1⟩ (near.bind ⟨1⟩) (.read [0])]

theorem interrupted_builtOn : interrupted.server.BuiltOn muxes := ⟨rfl, rfl, rfl⟩

theorem later_undisturbed : ∀ e ∈ later, e.Undisturbed muxes := by
  simp only [later, List.forall_mem_cons, List.not_mem_nil, false_implies, implies_true, and_true]
  refine ⟨trivial, ?_, ?_⟩
  · exact sound.off_muxes far (by decide)
  · exact sound.off_muxes near (by decide)

/-- The near device is read, which mends the lock; then a fault meets the way to the far one. -/
theorem recovers_interrupted :
    WellWired muxes ∧ interrupted.server.BuiltOn muxes ∧ interrupted.poisoned = true ∧
      near.OffMuxes muxes ∧ (∀ e ∈ later, e.Undisturbed muxes) ∧
      ((interrupted.react (.operate ⟨1⟩ (near.bind ⟨1⟩) (.read [0]))).2.run later).2.Recovered muxes :=
  have hoff : near.OffMuxes muxes := sound.off_muxes near (by decide)
  have hrecovers := (SharedServer.recovers sound.wired interrupted_builtOn rfl).2 (near.bind ⟨1⟩) (.read [0])
  ⟨sound.wired, interrupted_builtOn, rfl, hoff, later_undisturbed, (hrecovers.2 hoff).2 later later_undisturbed⟩

end TwoMuxes

end I2cTopology
