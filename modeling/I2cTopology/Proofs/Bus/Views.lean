import I2cTopology.Proofs.Bus.Reachable

/-!
# Views of a server

A request puts transactions on one bus only. So whatever those keep of the wire, the request keeps
(`Server.handle_keeps`), and a view of the server that shows the transactions on that bus as they are also shows what
becomes of the request (`Server.handle_view`), however it treats the rest of the wire and the other buses.
-/

namespace I2cTopology

namespace Server

/-! ## What a request keeps -/

section

variable {σ : Type} [Wire σ] {r : Request} {P : σ → Prop}

/-- Every transaction on a bus keeps `P` of the wire. -/
def KeptOn (P : σ → Prop) (c : Controller) (p : PortIndex) : Prop :=
  ∀ wire x buffer, x.controller = c → x.port = p → P wire → P (Wire.transact wire x buffer).2

theorem sendControl_keeps (hP : KeptOn P r.controller r.port) (muxes : List MuxDescriptor) (target : Route) {wire : σ}
    (h : P wire) (w : ControlWrite) : P (sendControl muxes r target wire w).2 := by
  unfold sendControl
  cases control? muxes w with
  | error e => exact h
  | ok code =>
    have hkept := hP wire ⟨r.controller, r.port, code.1, .writeRead, code.2⟩ [] rfl rfl h
    simp only
    cases (Wire.transact wire ⟨r.controller, r.port, code.1, .writeRead, code.2⟩ []).1.result <;> exact hkept

theorem carryOut_keeps (hP : KeptOn P r.controller r.port) (muxes : List MuxDescriptor) (target : Route)
    (ws : List ControlWrite) (state : RoutingState) {wire : σ} (h : P wire) :
    P (carryOut (sendControl muxes r target) state wire ws).wire := by
  induction ws generalizing state wire with
  | nil => exact h
  | cons w ws ih =>
    have hkept := sendControl_keeps hP muxes target h w
    unfold carryOut
    generalize sendControl muxes r target wire w = sent at hkept
    obtain ⟨result, wire'⟩ := sent
    cases result with
    | error e => exact hkept
    | ok _ => exact ih (state.after w) hkept

variable {Q : List Bus → Prop} {bus : Bus} {s : Server σ}

/-- The server `s'` has the descriptors of `s`, a wire with `P` and buses with `Q`. -/
structure Follows (P : σ → Prop) (Q : List Bus → Prop) (s s' : Server σ) : Prop where
  wire : P s'.wire
  buses : Q s'.buses
  controllers_eq : s'.controllers = s.controllers
  muxes_eq : s'.muxes = s.muxes

theorem transactDevice_keeps (hP : KeptOn P r.controller r.port)
    (hQ : ∀ (b : Bus) bs, b.isOn r.controller r.port = true → Q bs → Q (b.putBack bs))
    (hbus : bus.isOn r.controller r.port = true) (hwire : P s.wire) (hbuses : Q s.buses) (buffer : Buffer) :
    Follows P Q s (s.transactDevice bus r buffer).server := by
  have hkept : P (Wire.transact s.wire r.toExchange buffer).2 := hP s.wire r.toExchange buffer rfl rfl hwire
  have hput : Q (bus.putBack s.buses) := hQ bus s.buses hbus hbuses
  have hdone := s.transacted bus r buffer
  generalize s.transactDevice bus r buffer = served at hdone ⊢
  cases hdone with
  | answered _ => exact ⟨hkept, hput, rfl, rfl⟩
  | failed _ _ => exact ⟨hkept, hput, rfl, rfl⟩
  | lost _ _ => exact ⟨hkept, hQ { bus with tracker := bus.tracker.markUnknown } _ hbus hput, rfl, rfl⟩

/-- What transactions on the bus of a request keep of the wire, and putting that bus back of the buses, the request
keeps. -/
theorem handle_keeps (hP : KeptOn P r.controller r.port)
    (hQ : ∀ (b : Bus) bs, b.isOn r.controller r.port = true → Q bs → Q (b.putBack bs)) (hwire : P s.wire)
    (hbuses : Q s.buses) (buffer : Buffer) : Follows P Q s (s.handle r buffer).server := by
  unfold handle
  cases s.check r with
  | error e => exact ⟨hwire, hbuses, rfl, rfl⟩
  | ok _ =>
    cases hfind : Bus.find? r.controller r.port s.buses with
    | none => exact ⟨hwire, hbuses, rfl, rfl⟩
    | some bus =>
      have hon : bus.isOn r.controller r.port = true := Bus.isOn_iff.mpr (Bus.isOn_of_find? hfind)
      cases hroute : r.route with
      | none => exact transactDevice_keeps hP hQ hon hwire hbuses buffer
      | some target =>
        have hrouted : ({ bus with tracker := (s.route bus r target).tracker } : Bus).isOn r.controller r.port = true :=
          hon
        have hkept : P (s.route bus r target).wire := carryOut_keeps hP s.muxes target _ _ hwire
        have hput : Q (s.afterRoute bus r target).buses := hQ _ s.buses hrouted hbuses
        show Follows P Q s (s.finish bus r buffer (s.route bus r target)).server
        unfold finish
        cases (s.route bus r target).result with
        | error e => exact ⟨hkept, hput, rfl, rfl⟩
        | ok _ =>
          have hdone := transactDevice_keeps (s := s.afterRoute bus r target) hP hQ hrouted hkept hput buffer
          exact ⟨hdone.wire, hdone.buses, hdone.controllers_eq, hdone.muxes_eq⟩

end

/-! ## What a view shows of a request -/

section

variable {σ τ : Type}

/-- Another view of a server: of its wire and of each of its buses. -/
def view (f : σ → τ) (g : Bus → Bus) (s : Server σ) : Server τ := ⟨f s.wire, s.controllers, s.muxes, s.buses.map g⟩

/-- The view shows the buses of a controller and port as they are and leaves every bus at its place. -/
structure ShowsBuses (g : Bus → Bus) (c : Controller) (p : PortIndex) : Prop where
  place : ∀ b, (g b).controller = b.controller ∧ (g b).port = b.port
  here : ∀ b : Bus, b.isOn c p = true → g b = b

theorem ShowsBuses.putBack {g : Bus → Bus} {c : Controller} {p : PortIndex} (h : ShowsBuses g c p) {bus : Bus}
    (hbus : bus.isOn c p = true) (bs : List Bus) : (bus.putBack bs).map g = bus.putBack (bs.map g) := by
  induction bs with
  | nil => rfl
  | cons b bs ih =>
    have hsame : (g b).isOn bus.controller bus.port = b.isOn bus.controller bus.port := by
      simp only [Bus.isOn, h.place b]
    simp only [Bus.putBack, List.map_cons, hsame]
    split
    · rw [List.map_cons, h.here bus hbus]
    · rw [List.map_cons, ih]

theorem ShowsBuses.leave {g : Bus → Bus} {c : Controller} {p : PortIndex} (h : ShowsBuses g c p) (f : σ → τ)
    {bus : Bus} (hbus : bus.isOn c p = true) (s : Server σ) (wire : σ) :
    (s.view f g).leave bus (f wire) = (s.leave bus wire).view f g := by
  simp only [Server.leave, view, h.putBack hbus]

theorem ShowsBuses.find? {g : Bus → Bus} {c : Controller} {p : PortIndex} (h : ShowsBuses g c p) (bs : List Bus) :
    Bus.find? c p (bs.map g) = Bus.find? c p bs := by
  rw [Bus.find?_map h.place]
  cases hfind : Bus.find? c p bs with
  | none => rfl
  | some bus => exact congrArg some (h.here bus (Bus.isOn_iff.mpr (Bus.isOn_of_find? hfind)))

variable [Wire σ] [Wire τ]

/-- Of wires with `P`, the view shows the transactions on a bus as they are. -/
structure Shows (P : σ → Prop) (f : σ → τ) (c : Controller) (p : PortIndex) : Prop where
  kept : KeptOn P c p
  transact : ∀ wire x buffer, x.controller = c → x.port = p → P wire →
    Wire.transact (f wire) x buffer = ((Wire.transact wire x buffer).1, f (Wire.transact wire x buffer).2)

variable {P : σ → Prop} {f : σ → τ} {g : Bus → Bus} {r : Request}

section

variable (hf : Shows P f r.controller r.port)
include hf

theorem sendControl_view (muxes : List MuxDescriptor) (target : Route) {wire : σ} (h : P wire) (w : ControlWrite) :
    sendControl muxes r target (f wire) w =
      ((sendControl muxes r target wire w).1, f (sendControl muxes r target wire w).2) := by
  unfold sendControl
  cases control? muxes w with
  | error e => rfl
  | ok code =>
    simp only [hf.transact wire ⟨r.controller, r.port, code.1, .writeRead, code.2⟩ [] rfl rfl h]
    cases (Wire.transact wire ⟨r.controller, r.port, code.1, .writeRead, code.2⟩ []).1.result <;> rfl

theorem carryOut_view (muxes : List MuxDescriptor) (target : Route) (ws : List ControlWrite) (state : RoutingState)
    {wire : σ} (h : P wire) :
    carryOut (sendControl muxes r target) state (f wire) ws =
      let run := carryOut (sendControl muxes r target) state wire ws
      ⟨run.result, run.state, f run.wire, run.log⟩ := by
  induction ws generalizing state wire with
  | nil => rfl
  | cons w ws ih =>
    have hkept := sendControl_keeps hf.kept muxes target h w
    unfold carryOut
    rw [sendControl_view hf muxes target h]
    generalize sendControl muxes r target wire w = sent at hkept
    obtain ⟨result, wire'⟩ := sent
    cases result with
    | error e => rfl
    | ok _ => simp only [ih (state.after w) hkept]

theorem route_view (s : Server σ) (h : P s.wire) (bus : Bus) (target : Route) :
    (s.view f g).route bus r target = ⟨(s.route bus r target).result, (s.route bus r target).tracker,
      f (s.route bus r target).wire, (s.route bus r target).log⟩ := by
  simp only [Server.route, Tracker.route, view, carryOut_view hf s.muxes target _ _ h]

variable (hg : ShowsBuses g r.controller r.port) {s : Server σ} {bus : Bus}
  (hbus : bus.isOn r.controller r.port = true)
include hg hbus

theorem transactDevice_view (h : P s.wire) (buffer : Buffer) :
    (s.view f g).transactDevice bus r buffer =
      let served := s.transactDevice bus r buffer
      ⟨served.reply, served.server.view f g, served.log⟩ := by
  have hgiven : ({ bus with tracker := bus.tracker.markUnknown } : Bus).isOn r.controller r.port = true := hbus
  unfold transactDevice
  simp only [view, hf.transact s.wire r.toExchange buffer rfl rfl h]
  cases (Wire.transact s.wire r.toExchange buffer).1.result with
  | ok n => simp only [hg.putBack hbus]
  | error fault =>
    cases r.route with
    | none => simp [hg.putBack hbus]
    | some target => simp [hg.putBack hbus, hg.putBack hgiven]

theorem finish_view (routed : Tracker.Routed AccessError σ) (h : P routed.wire) (buffer : Buffer) :
    (s.view f g).finish bus r buffer ⟨routed.result, routed.tracker, f routed.wire, routed.log⟩ =
      let served := s.finish bus r buffer routed
      ⟨served.reply, served.server.view f g, served.log⟩ := by
  obtain ⟨result, tracker, wire, log⟩ := routed
  have hon : ({ bus with tracker } : Bus).isOn r.controller r.port = true := hbus
  have hleft : (s.view f g).leave { bus with tracker } (f wire) = _ := hg.leave f hon s wire
  unfold finish
  simp only [hleft]
  cases result with
  | error e => rfl
  | ok _ => simp only [transactDevice_view hf hg hon (s := s.leave { bus with tracker } wire) h]

end

/-- A request is handled over a view that shows its bus as it is handled over the server itself. -/
theorem handle_view (hf : Shows P f r.controller r.port) (hg : ShowsBuses g r.controller r.port) {s : Server σ}
    (h : P s.wire) (buffer : Buffer) :
    (s.view f g).handle r buffer =
      let served := s.handle r buffer
      ⟨served.reply, served.server.view f g, served.log⟩ := by
  have hcheck : (s.view f g).check r = s.check r := rfl
  have hfound : Bus.find? r.controller r.port (s.view f g).buses = Bus.find? r.controller r.port s.buses :=
    hg.find? s.buses
  unfold handle
  rw [hcheck, hfound]
  cases s.check r with
  | error e => rfl
  | ok _ =>
    cases hfind : Bus.find? r.controller r.port s.buses with
    | none => rfl
    | some bus =>
      have hon : bus.isOn r.controller r.port = true := Bus.isOn_iff.mpr (Bus.isOn_of_find? hfind)
      cases hroute : r.route with
      | none => exact transactDevice_view hf hg hon h buffer
      | some target =>
        have hkept : P (s.route bus r target).wire := carryOut_keeps hf.kept s.muxes target _ _ h
        show (s.view f g).finish bus r buffer ((s.view f g).route bus r target) = _
        rw [route_view hf s h bus target]
        exact finish_view hf hg hon (s.route bus r target) hkept buffer

end

end Server

end I2cTopology
