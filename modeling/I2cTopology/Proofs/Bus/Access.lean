import I2cTopology.Proofs.Bus.Reachable
import I2cTopology.Proofs.Bus.Transactions

/-!
# Access to one device

A request that addresses no multiplexer keeps a server's layout and its right beliefs, and if it goes over a route, its
device transaction runs while just that route is connected (`Layout.Holds.kept_handle`).

A request for a device that can be reached and has no rival either comes to a transaction with that device on its own
(`SimDevice.exchange`) and with no other, or meets an injected fault, spends it and touches no device
(`Layout.Holds.ended_handle`).
-/

namespace I2cTopology

/-! ## Transactions with a device -/

/-- A device is at the place of a request when it agrees with it in all four coordinates. -/
theorem SimDevice.toDevicePlace_eq_place_iff {d : SimDevice} {r : Request} : d.toDevicePlace = r.place ↔
    d.controller = r.controller ∧ d.port = r.port ∧ d.route = r.route ∧ d.address = r.address := by
  obtain ⟨⟨c, p, route, a⟩, _, _, _⟩ := d
  simp [Request.place]

namespace SimBoard

/-- A transaction that addresses no multiplexer moves no latch and no device. -/
theorem transact_off_muxes {b : SimBoard} {x : Exchange} (buffer : Buffer)
    (hmux : b.muxes.find? (·.isAt x.controller x.port x.address) = none) :
    (b.transact x buffer).2.muxes = b.muxes ∧
      (b.transact x buffer).2.devices.map (·.toDevicePlace) = b.devices.map (·.toDevicePlace) := by
  have hended := b.ended_transact x buffer
  generalize b.transact x buffer = sent at hended ⊢
  obtain ⟨reply, b'⟩ := sent
  cases hended with
  | failed _ => exact ⟨rfl, rfl⟩
  | polled _ _ _ => exact ⟨rfl, rfl⟩
  | switched _ hm _ _ =>
    unfold muxAt at hm
    rw [hmux] at hm
    cases hm
  | @answered d i _ _ hone =>
    obtain ⟨hd, -⟩ := of_answering (hone ▸ List.mem_singleton_self (d, i))
    refine ⟨rfl, ?_⟩
    rw [List.map_set, d.toDevicePlace_exchange x.op x.write buffer]
    refine KeyedList.set_eq_self ?_
    rw [List.getElem?_map, hd]
    rfl

/-- A transaction on `b` that reached the device `d` in row `i` has left `reply` and `b'`. -/
structure Reaches (b : SimBoard) (x : Exchange) (buffer : Buffer) (d : SimDevice) (i : Nat) (reply : Reply BusFault)
    (b' : SimBoard) : Prop where
  reply_eq : reply = ⟨.ok (d.exchange x.op x.write buffer).1.1, (d.exchange x.op x.write buffer).1.2⟩
  muxes_eq : b'.muxes = b.muxes
  devices_eq : b'.devices = b.devices.set i (d.exchange x.op x.write buffer).2
  faults_eq : b'.faults = b.faults

/-- A transaction that a single device answers either meets an injected fault or reaches the device. -/
theorem transact_cases {b : SimBoard} {x : Exchange} {d : SimDevice} {i : Nat} (buffer : Buffer)
    (hmux : b.muxes.find? (·.isAt x.controller x.port x.address) = none) (hans : b.answering x = [(d, i)]) :
    (∃ fault, (b.transact x buffer).1 = ⟨.error fault, buffer⟩ ∧ b.Spends fault (b.transact x buffer).2) ∨
      b.Reaches x buffer d i (b.transact x buffer).1 (b.transact x buffer).2 := by
  cases hf : b.faults.find? (·.1 == x.address) with
  | some entry => exact Or.inl ⟨entry.2, transact_of_fault buffer hf⟩
  | none =>
    right
    have hans' : ({ b with history := b.history ++ [⟨x, buffer.length⟩] } : SimBoard).answering x = [(d, i)] := hans
    simp only [transact, hf, hmux, transactDevice, hans']
    cases hop : x.op with
    | writeRead => constructor <;> simp only [hop, SimDevice.exchange]
    | writeReadBlock => constructor <;> simp only [hop, SimDevice.exchange]

end SimBoard

/-! ## What a request keeps -/

theorem Server.transact_of_transacted {s : Server SimBoard} {bus : Bus} {r : Request} {buffer : Buffer}
    {served : Served SimBoard} (ht : s.Transacted bus r buffer served) {n : Nat} (hn : served.reply.result = .ok n) :
    s.wire.transact r.toExchange buffer = (⟨.ok n, served.reply.buffer⟩, served.server.wire) := by
  cases ht with
  | answered hresult =>
    obtain rfl := Except.ok.inj hn
    have hreply : (s.wire.transact r.toExchange buffer).1.result = .ok _ := hresult
    show _ = (Reply.mk _ (s.wire.transact r.toExchange buffer).1.buffer, (s.wire.transact r.toExchange buffer).2)
    rw [← hreply]
  | failed _ _ => cases hn
  | lost _ _ => cases hn

namespace Layout

variable {l : Layout} {s : Server SimBoard} {r : Request} {buffer : Buffer}

theorem Holds.find?_isAt_eq_none (h : l.Holds s) (hoff : r.place.OffMuxes l.muxes) :
    s.wire.muxes.find? (·.isAt r.controller r.port r.address) = none := by
  refine List.find?_eq_none.mpr fun sm hsm hat => ?_
  simp only [SimMux.isAt, Bool.and_eq_true, beq_iff_eq] at hat
  exact hoff _ (h.carries.mem hsm) hat.1 hat.2

theorem Holds.orderly (h : l.Holds s) (hright : s.BeliefsRight) : s.Orderly where
  tracked c p bus hb := by
    rw [h.muxes_eq]
    exact ⟨h.tracked c p bus hb, (hright c p bus hb).names⟩
  served := h.controllers_eq ▸ h.served

/-- A device transaction keeps the layout and right beliefs. -/
theorem Holds.keeps_transacted (h : l.Holds s) (hw : WellWired l.muxes) (hright : s.BeliefsRight)
    (hoff : r.place.OffMuxes l.muxes) {bus : Bus} (hbus : Bus.find? r.controller r.port s.buses = some bus)
    {served : Served SimBoard} (ht : s.Transacted bus r buffer served) :
    l.Holds served.server ∧ served.server.BeliefsRight := by
  obtain ⟨hmuxes, hplaces⟩ := SimBoard.transact_off_muxes (x := r.toExchange) buffer (h.find?_isAt_eq_none hoff)
  rw [h.places_eq] at hplaces
  obtain ⟨hkept, hkeptRight⟩ := h.putBack_of_muxes_eq hright hw hbus hmuxes hplaces
  cases ht with
  | answered _ => exact ⟨hkept, hkeptRight⟩
  | failed _ _ => exact ⟨hkept, hkeptRight⟩
  | lost _ _ =>
    obtain ⟨hc, hp⟩ := Bus.isOn_of_find? hbus
    have hgiven : ({ bus with tracker := bus.tracker.markUnknown } : Bus).tracker.muxes =
        muxIdsOn l.muxes bus.controller bus.port := by
      rw [hc, hp]
      exact h.tracked _ _ bus hbus
    refine ⟨hkept.putBack hgiven hkept.carries hplaces, ?_⟩
    exact hkept.beliefsRight_putBack hkeptRight hw hgiven trivial fun _ _ => rfl

/-- A request that went over a route and succeeded was answered on a board on which just that route was connected. -/
def RanLive (l : Layout) (r : Request) (buffer : Buffer) (served : Served SimBoard) : Prop :=
  ∀ n target, served.reply.result = .ok n → r.route = some target → ∃ board : SimBoard,
    (RoutingState.segmentActive target).Describes (muxIdsOn l.muxes r.controller r.port) board.selected ∧
      board.transact r.toExchange buffer = (⟨.ok n, served.reply.buffer⟩, served.server.wire)

/-- What a request leaves of a server, and how it was answered. -/
structure Kept (l : Layout) (r : Request) (buffer : Buffer) (served : Served SimBoard) : Prop where
  holds : l.Holds served.server
  right : served.server.BeliefsRight
  ran_live : l.RanLive r buffer served

/-- A request that addresses no multiplexer keeps the layout and right beliefs, and runs over a live route. -/
theorem Holds.kept_handle (h : l.Holds s) (hw : WellWired l.muxes) (hright : s.BeliefsRight)
    (hoff : r.place.OffMuxes l.muxes) (buffer : Buffer) : l.Kept r buffer (s.handle r buffer) := by
  have hhandled := (h.orderly hright).handled r buffer
  generalize s.handle r buffer = served at hhandled
  cases hhandled with
  | refused _ => exact ⟨h, hright, fun n target hn _ => by cases hn⟩
  | direct _ hbus hroute ht =>
    obtain ⟨hholds, hkept⟩ := h.keeps_transacted hw hright hoff hbus ht
    refine ⟨hholds, hkept, fun n target _ htarget => ?_⟩
    rw [hroute] at htarget
    cases htarget
  | unroutable hcheck hbus hroute _ =>
    have hkept := h.routeKept hw hright hbus (h.muxes_eq ▸ Server.wiredOn_of_check hcheck hroute)
    exact ⟨hkept.holds, hkept.right, fun n target hn _ => by cases hn⟩
  | @routed bus target action served hcheck hbus hroute hresult ht =>
    have hkept := h.routeKept hw hright hbus (h.muxes_eq ▸ Server.wiredOn_of_check hcheck hroute)
    obtain ⟨hc, hp⟩ := Bus.isOn_of_find? hbus
    have hbus' : Bus.find? r.controller r.port (s.afterRoute bus r target).buses =
        some { bus with tracker := (s.route bus r target).tracker } :=
      Bus.find?_putBack_of_isOn (Bus.isOn_iff.mpr ⟨hc, hp⟩) hbus
    have hafter := Holds.keeps_transacted hkept.holds hw hkept.right hoff hbus' ht
    refine ⟨hafter.1, hafter.2, fun n target' hn htarget' => ?_⟩
    obtain rfl : target = target' := Option.some.inj (hroute.symm.trans htarget')
    refine ⟨(s.route bus r target).wire, ?_, ?_⟩
    · have hd := hkept.right _ _ _ hbus'
      rw [hkept.holds.tracked _ _ _ hbus'] at hd
      have hstate : (s.route bus r target).tracker.state = .segmentActive target := Tracker.state_route_of_ok hresult
      exact hstate ▸ hd
    · exact Server.transact_of_transacted ht hn

end Layout

/-! ## One device at a place -/

namespace Layout

variable {l : Layout} {s : Server SimBoard} {r : Request} {d : SimDevice} {i : Nat}

/-- The route of a request is live: its segment is connected and nothing else on its bus is. -/
def Live (l : Layout) (s : Server SimBoard) (r : Request) : Prop :=
  ∀ target, r.route = some target →
    (RoutingState.segmentActive target).Describes (muxIdsOn l.muxes r.controller r.port) s.wire.selected

theorem Holds.place_mem (h : l.Holds s) (hd : d ∈ s.wire.devices) : d.toDevicePlace ∈ l.places :=
  h.places_eq ▸ List.mem_map_of_mem hd

theorem Holds.isVisible_iff (h : l.Holds s) (hw : WellWired l.muxes) {c : Controller} {p : PortIndex}
    (hroutes : ∀ route, d.route = some route → route.WiredOn l.muxes c p) :
    s.wire.isVisible d = true ↔ ∀ route, d.route = some route → s.wire.selected route.mux = some route.segment := by
  refine h.carries.isVisible_iff hw fun route hroute => ?_
  obtain ⟨m, hm, -, hid, -⟩ := hroutes route hroute
  exact ⟨m, hm, hid⟩

/-- While the route of a request is live, what answers at its address on its bus is behind that very route, unless it
is a rival of the device that is asked for. -/
theorem Holds.route_eq_of_isVisible (h : l.Holds s) (hl : l.SoundAt r.place)
    (halone : ∀ k ∈ l.places, ¬k.Rivals s.wire.selected r.place) (hlive : l.Live s r) (hd : d ∈ s.wire.devices)
    (hmeets : d.toDevicePlace.Meets r.place) (hvisible : s.wire.isVisible d = true) : d.route = r.route := by
  have hroutes := hl.routes_wired _ (h.place_mem hd) hmeets
  have hno := halone _ (h.place_mem hd)
  rw [h.isVisible_iff hl.wired hroutes] at hvisible
  cases hr : r.route with
  | none =>
    cases hroute : d.route with
    | none => rfl
    | some route => exact absurd ⟨hmeets, Or.inr ⟨hr, route, hroute, hvisible route hroute⟩⟩ hno
  | some target =>
    have hrouted : r.place.route ≠ none := fun hnone => by
      rw [show r.place.route = r.route from rfl, hr] at hnone
      cases hnone
    cases hroute : d.route with
    | none => exact absurd ⟨hmeets, Or.inl ⟨hrouted, hroute⟩⟩ hno
    | some route =>
      obtain ⟨-, hselected, hclear⟩ := hlive target hr
      have hsegment := hvisible route hroute
      have hmux : route.mux = target.mux := Decidable.byContradiction fun hne => by
        have hnone := hclear route.mux (hroutes route hroute).mux_mem hne
        rw [hsegment] at hnone
        cases hnone
      obtain ⟨mux, segment⟩ := route
      obtain ⟨targetMux, targetSegment⟩ := target
      simp only at hmux hsegment hselected
      rw [hmux, hselected] at hsegment
      rw [hmux, Option.some.inj hsegment]

/-- While the route of a request is live, the device at its place answers, and no other does unless it is a rival. -/
theorem Holds.answering_eq (h : l.Holds s) (hl : l.SoundAt r.place)
    (halone : ∀ k ∈ l.places, ¬k.Rivals s.wire.selected r.place) (hd : s.wire.devices[i]? = some d)
    (hplace : d.toDevicePlace = r.place) (hlive : l.Live s r) : s.wire.answering r.toExchange = [(d, i)] := by
  have hmem := List.mem_of_getElem? hd
  obtain ⟨hc, hp, hroute, ha⟩ := SimDevice.toDevicePlace_eq_place_iff.mp hplace
  have hself : (d.isAt r.controller r.port r.address && s.wire.isVisible d) = true := by
    rw [Bool.and_eq_true, h.isVisible_iff hl.wired (hl.routes_wired _ (h.place_mem hmem) ⟨hc, hp, ha⟩)]
    refine ⟨by simp [SimDevice.isAt, hc, hp, ha], fun route hr => ?_⟩
    exact (hlive route (hroute ▸ hr)).2.1
  have hn : (s.wire.devices.map (·.toDevicePlace)).Nodup := h.places_eq ▸ hl.places_distinct
  have hone := KeyedList.filter_zipIdx_eq_singleton (p := fun k : SimDevice =>
    k.isAt r.controller r.port r.address && s.wire.isVisible k) hself 0 hn hd fun k hk hkp => ?_
  · rw [Nat.zero_add] at hone
    exact hone
  rw [Bool.and_eq_true] at hkp
  obtain ⟨hat, hvisible⟩ := hkp
  obtain ⟨hkc, hkport, hka⟩ : k.controller = r.controller ∧ k.port = r.port ∧ k.address = r.address := by
    simpa [SimDevice.isAt, and_assoc] using hat
  have hkroute := h.route_eq_of_isVisible hl halone hlive hk ⟨hkc, hkport, hka⟩ hvisible
  rw [hplace]
  exact SimDevice.toDevicePlace_eq_place_iff.mpr ⟨hkc, hkport, hkroute, hka⟩

/-! ## The access -/

/-- How an access to the device `d` in row `i` ended: with its reply, or with a fault that was injected. -/
def AccessEnded (s : Server SimBoard) (r : Request) (buffer : Buffer) (d : SimDevice) (i : Nat)
    (served : Served SimBoard) : Prop :=
  (served.reply = ⟨.ok (d.exchange r.op r.write buffer).1.1, (d.exchange r.op r.write buffer).1.2⟩ ∧
    served.server.wire.devices = s.wire.devices.set i (d.exchange r.op r.write buffer).2 ∧
    served.server.wire.faults = s.wire.faults) ∨
  ∃ error fault address, served.reply = ⟨.error error, buffer⟩ ∧ error.fault? = some fault ∧
    served.server.wire.devices = s.wire.devices ∧
    s.wire.faults.Perm ((address, fault) :: served.server.wire.faults)

/-- The device transaction of a request whose route is live. -/
theorem Holds.ended_transacted (h : l.Holds s) (hl : l.SoundAt r.place)
    (halone : ∀ k ∈ l.places, ¬k.Rivals s.wire.selected r.place) (hd : s.wire.devices[i]? = some d)
    (hplace : d.toDevicePlace = r.place) (hlive : l.Live s r) {buffer : Buffer} {bus : Bus}
    {served : Served SimBoard} (ht : s.Transacted bus r buffer served) : AccessEnded s r buffer d i served := by
  have hcases := SimBoard.transact_cases (x := r.toExchange) buffer (h.find?_isAt_eq_none hl.off_muxes)
    (h.answering_eq hl halone hd hplace hlive)
  generalize hsent : s.wire.transact r.toExchange buffer = sent at hcases
  have hwire : Wire.transact s.wire r.toExchange buffer = sent := hsent
  rcases hcases with ⟨fault, hreply, hs⟩ | hs
  · obtain ⟨address, hperm⟩ := hs.faults_perm
    cases ht with
    | answered hresult => rw [hwire, hreply] at hresult; cases hresult
    | failed hresult _ =>
      rw [hwire, hreply] at hresult ⊢
      obtain rfl := Except.error.inj hresult
      exact Or.inr ⟨_, fault, address, rfl, rfl, hs.devices_eq, hperm⟩
    | lost hresult _ =>
      rw [hwire, hreply] at hresult ⊢
      obtain rfl := Except.error.inj hresult
      exact Or.inr ⟨_, fault, address, rfl, rfl, hs.devices_eq, hperm⟩
  · cases ht with
    | answered hresult =>
      rw [hwire, hs.reply_eq] at hresult ⊢
      obtain rfl := Except.ok.inj hresult
      exact Or.inl ⟨rfl, hs.devices_eq, hs.faults_eq⟩
    | failed hresult _ => rw [hwire, hs.reply_eq] at hresult; cases hresult
    | lost hresult _ => rw [hwire, hs.reply_eq] at hresult; cases hresult

/-- A request for the place of a device that has no rival. -/
theorem Holds.ended_handle (h : l.Holds s) (hl : l.SoundAt r.place)
    (halone : ∀ k ∈ l.places, ¬k.Rivals s.wire.selected r.place) (hright : s.BeliefsRight)
    (hd : s.wire.devices[i]? = some d) (hplace : d.toDevicePlace = r.place) (buffer : Buffer) :
    AccessEnded s r buffer d i (s.handle r buffer) := by
  have hhandled := (h.orderly hright).handled r buffer
  generalize s.handle r buffer = served at hhandled
  cases hhandled with
  | refused hrefused =>
    rw [h.check_eq_ok hl] at hrefused
    cases hrefused
  | direct _ _ hroute ht =>
    refine h.ended_transacted hl halone hd hplace (fun target htarget => ?_) ht
    rw [hroute] at htarget
    cases htarget
  | @unroutable bus target e hcheck hbus hroute hresult =>
    have hmade := h.routeKept hl.wired hright hbus (hl.route_wired hroute)
    rcases hmade.outcome with ⟨action, hok, -, -⟩ | ⟨fault, address, he, hperm⟩
    · rw [hok] at hresult
      cases hresult
    · rw [he] at hresult
      obtain rfl := Except.error.inj hresult
      exact Or.inr ⟨_, fault, address, rfl, rfl, hmade.devices_eq, hperm⟩
  | @routed bus target action served hcheck hbus hroute hresult ht =>
    have hmade := h.routeKept hl.wired hright hbus (hl.route_wired hroute)
    obtain ⟨hc, hp⟩ := Bus.isOn_of_find? hbus
    have hbus' : Bus.find? r.controller r.port (s.afterRoute bus r target).buses =
        some { bus with tracker := (s.route bus r target).tracker } :=
      Bus.find?_putBack_of_isOn (Bus.isOn_iff.mpr ⟨hc, hp⟩) hbus
    rcases hmade.outcome with ⟨_, -, hstate, hfaults⟩ | ⟨fault, address, he, hperm⟩
    · have hlive : l.Live (s.afterRoute bus r target) r := by
        intro target' ht'
        obtain rfl : target = target' := Option.some.inj (hroute.symm.trans ht')
        have hdescribes := hmade.right _ _ _ hbus'
        rw [hmade.holds.tracked _ _ _ hbus'] at hdescribes
        exact hstate ▸ hdescribes
      have hrouted : r.place.route ≠ none := fun hnone => by
        rw [show r.place.route = r.route from rfl, hroute] at hnone
        cases hnone
      have hdevices : (s.afterRoute bus r target).wire.devices[i]? = some d := hmade.devices_eq ▸ hd
      have halone' : ∀ k ∈ l.places, ¬k.Rivals (s.afterRoute bus r target).wire.selected r.place := fun k hk hrivals =>
        halone k hk (hrivals.of_routed hrouted)
      have hended := Holds.ended_transacted hmade.holds hl halone' hdevices hplace hlive ht
      unfold AccessEnded at hended ⊢
      rw [hmade.devices_eq, hfaults] at hended
      exact hended
    · rw [he] at hresult
      cases hresult

end Layout

end I2cTopology
