import I2cTopology.Proofs.Bus.Calls
import I2cTopology.Proofs.Bus.FlatStore
import I2cTopology.Proofs.Bus.OneBus

/-!
# Buses do not influence one another

An `Errand` is a dialogue that a task has with the devices on one bus: any operation through a handle, and any check.

- an errand on a bus does the same to what is shown of the bus, and one on another bus is not shown
  (`SharedServer.perform_only`, `SharedServer.only_perform`), so a bus goes its way as if the errands on other buses had
  not been run (`SharedServer.performAll_only`);
- errands that are interleaved in two ways come to the same and leave the same server
  (`SharedServer.buses_independent`).
-/

namespace I2cTopology

/-! ## One bus of a shared server -/

section

variable {muxes : List MuxDescriptor} {places : List DevicePlace} {c : Controller} {p : PortIndex} {α β : Type}

/-- What one bus sees of a shared server. -/
def SharedServer.only (c : Controller) (p : PortIndex) (s : SharedServer SimBoard) : SharedServer SimBoard :=
  ⟨s.server.only c p, s.poisoned⟩

/-- What one bus sees of a client. -/
def Client.only (c : Controller) (p : PortIndex) (k : Client SimBoard) : Client SimBoard :=
  { k with shared := k.shared.only c p }

/-- The lock is in order, and the board has its layout and no fault waiting. -/
structure SharedServer.InOrder (muxes : List MuxDescriptor) (places : List DevicePlace) (s : SharedServer SimBoard) :
    Prop where
  sound : s.poisoned = false
  intact : s.server.wire.Intact muxes places

namespace Client

variable {k : Client SimBoard} {r : Request}

theorem send_of_sound (h : k.shared.poisoned = false) (r : Request) (buffer : Buffer) :
    k.send r buffer =
      if r.owner ≠ k.task then
        ⟨⟨.error (.capabilityDenied r.owner k.task), buffer⟩, k,
          [.warn s!"task {k.task.number} denied access to a device owned by task {r.owner.number}"]⟩
      else
        ⟨(k.shared.server.handle r buffer).reply,
          { k with shared := ⟨(k.shared.server.handle r buffer).server, false⟩ },
          (k.shared.server.handle r buffer).log⟩ := by
  unfold send lock
  simp only [h]
  rfl

theorem inOrder_send (h : k.shared.InOrder muxes places) (r : Request) (buffer : Buffer) :
    (k.send r buffer).transport.shared.InOrder muxes places := by
  rw [send_of_sound h.sound]
  split
  · exact h
  · exact ⟨rfl, Server.intact_handle h.intact r buffer⟩

/-- A request on a bus does the same to what is shown of the bus. -/
theorem send_only (h : k.shared.InOrder muxes places) (hr : RoutesApart muxes places) (hon : r.isOn c p = true)
    (buffer : Buffer) :
    (k.only c p).send r buffer =
      ⟨(k.send r buffer).reply, (k.send r buffer).transport.only c p, (k.send r buffer).log⟩ := by
  have hsound : (k.only c p).shared.poisoned = false := h.sound
  rw [send_of_sound h.sound, send_of_sound hsound]
  have hserver : (k.only c p).shared.server.handle r buffer = _ := Server.handle_only h.intact hr hon buffer
  rw [hserver]
  by_cases howner : r.owner ≠ k.task
  · have howner' : r.owner ≠ (k.only c p).task := howner
    rw [if_pos howner, if_pos howner']
    rfl
  · have howner' : ¬r.owner ≠ (k.only c p).task := howner
    rw [if_neg howner, if_neg howner']
    rfl

/-- A request on another bus is not shown. -/
theorem only_send (h : k.shared.InOrder muxes places) (hoff : ¬r.isOn c p = true) (buffer : Buffer) :
    (k.send r buffer).transport.only c p = k.only c p := by
  rw [send_of_sound h.sound]
  split
  · rfl
  · unfold only
    simp only [SharedServer.only, Server.only_handle h.intact hoff buffer, h.sound]

end Client

/-! ### Dialogues -/

namespace Dialogue

/-- Every request of a dialogue is on the given bus, whatever the replies are. -/
def StaysOn (c : Controller) (p : PortIndex) : Dialogue α → Prop
  | done _ => True
  | send request _ next => request.isOn c p = true ∧ ∀ reply, (next reply).StaysOn c p

theorem StaysOn.map {d : Dialogue α} (h : d.StaysOn c p) (f : α → β) : (d.map f).StaysOn c p := by
  induction d with
  | done value => trivial
  | send request buffer next ih => exact ⟨h.1, fun reply => ih reply (h.2 reply)⟩

variable {k : Client SimBoard} {d : Dialogue α}

theorem inOrder_run (h : k.shared.InOrder muxes places) (d : Dialogue α) :
    (d.run k).transport.shared.InOrder muxes places := by
  induction d generalizing k with
  | done value => exact h
  | send request buffer next ih => exact ih _ (Client.inOrder_send h request buffer)

/-- A dialogue on a bus does the same to what is shown of the bus. -/
theorem run_only (h : k.shared.InOrder muxes places) (hr : RoutesApart muxes places) (hstays : d.StaysOn c p) :
    d.run (k.only c p) = ⟨(d.run k).value, (d.run k).transport.only c p, (d.run k).log⟩ := by
  induction d generalizing k with
  | done value => rfl
  | send request buffer next ih =>
    obtain ⟨hon, hnext⟩ := hstays
    have hsent : Transport.send (k.only c p) request buffer = _ := Client.send_only h hr hon buffer
    simp only [run, hsent]
    rw [ih _ (Client.inOrder_send h request buffer) (hnext _)]
    rfl

/-- A dialogue on another bus is not shown. -/
theorem only_run (h : k.shared.InOrder muxes places) {c' : Controller} {p' : PortIndex} (hstays : d.StaysOn c' p')
    (hoff : ¬(c' = c ∧ p' = p)) : (d.run k).transport.only c p = k.only c p := by
  induction d generalizing k with
  | done value => rfl
  | send request buffer next ih =>
    obtain ⟨hon, hnext⟩ := hstays
    have hother : ¬request.isOn c p = true := by
      obtain ⟨rfl, rfl⟩ := Exchange.isOn_iff.mp hon
      rwa [Exchange.isOn_iff]
    exact (ih _ (Client.inOrder_send h request buffer) (hnext _)).trans (Client.only_send h hother buffer)

end Dialogue

/-- Every operation through a handle stays on the bus of the handle. -/
theorem Operation.staysOn (o : Operation) (h : DeviceHandle) : (o.dialogue h).StaysOn h.controller h.port := by
  have hrequest : ∀ op bytes buffer, (Dialogue.send (h.request op bytes) buffer .done).StaysOn h.controller h.port :=
    fun _ _ _ => ⟨Exchange.isOn_iff.mpr ⟨rfl, rfl⟩, fun _ => trivial⟩
  cases o with
  | write bytes => exact ((hrequest _ _ _).map _).map _
  | writeReg register bytes => exact ((hrequest _ _ _).map _).map _
  | read buffer => exact hrequest _ _ _
  | writeRead bytes buffer => exact hrequest _ _ _
  | readReg register buffer => exact hrequest _ _ _
  | readBlock register buffer => exact hrequest _ _ _

/-! ### Errands -/

/-- A dialogue that a task has with the devices on one bus. -/
structure Errand (α : Type) where
  task : TaskId
  controller : Controller
  port : PortIndex
  dialogue : Dialogue α
  stays : dialogue.StaysOn controller port

namespace Errand

/-- Whether the errand is on the given bus. -/
def isOn (e : Errand α) (c : Controller) (p : PortIndex) : Bool := e.controller == c && e.port == p

theorem isOn_iff {e : Errand α} : e.isOn c p = true ↔ e.controller = c ∧ e.port = p := by
  simp [isOn]

/-- The value that an errand comes to, and the server that it leaves. -/
def perform {σ : Type} [Wire σ] (e : Errand α) (s : SharedServer σ) : α × SharedServer σ :=
  let outcome := e.dialogue.run (⟨e.task, s⟩ : Client σ)
  (outcome.value, outcome.transport.shared)

end Errand

namespace SharedServer

/-- Runs errands one after the other: what each came to, in order, and the server that they leave. -/
def performAll {σ : Type} [Wire σ] (s : SharedServer σ) : List (Errand α) → List (Errand α × α) × SharedServer σ
  | [] => ([], s)
  | e :: es =>
    let (value, s) := e.perform s
    let (values, s) := s.performAll es
    ((e, value) :: values, s)

variable {s : SharedServer SimBoard} {e : Errand α}

/-- An errand on a bus does the same to what is shown of the bus. -/
theorem perform_only (h : s.InOrder muxes places) (hr : RoutesApart muxes places) (hon : e.isOn c p = true) :
    e.perform (s.only c p) = ((e.perform s).1, (e.perform s).2.only c p) := by
  obtain ⟨rfl, rfl⟩ := Errand.isOn_iff.mp hon
  have hrun := Dialogue.run_only (k := ⟨e.task, s⟩) h hr e.stays
  unfold Errand.perform
  exact Prod.ext (congrArg (·.value) hrun) (congrArg (·.transport.shared) hrun)

/-- An errand on another bus is not shown. -/
theorem only_perform (h : s.InOrder muxes places) (hoff : ¬e.isOn c p = true) :
    (e.perform s).2.only c p = s.only c p := by
  rw [Errand.isOn_iff] at hoff
  exact congrArg (·.shared) (Dialogue.only_run (k := ⟨e.task, s⟩) h e.stays hoff)

/-- A bus goes its way as if the errands on other buses had not been run. -/
theorem performAll_only (h : s.InOrder muxes places) (hr : RoutesApart muxes places) (c : Controller) (p : PortIndex)
    (es : List (Errand α)) :
    (s.only c p).performAll (es.filter (·.isOn c p)) =
      ((s.performAll es).1.filter (·.1.isOn c p), (s.performAll es).2.only c p) := by
  induction es generalizing s with
  | nil => rfl
  | cons e es ih =>
    have hnext : (e.perform s).2.InOrder muxes places := Dialogue.inOrder_run (k := ⟨e.task, s⟩) h e.dialogue
    have hrest := ih hnext
    by_cases hon : e.isOn c p = true
    · simp only [List.filter_cons, hon, if_true, performAll, perform_only h hr hon, hrest]
    · rw [only_perform h hon] at hrest
      rw [Bool.not_eq_true] at hon
      simp only [List.filter_cons, hon, Bool.false_eq_true, if_false, performAll, hrest]

end SharedServer

end

/-! ## All buses together -/

/-- Lists of rows of which every bus sees the same are the same, if rows of which every bus sees the same are. -/
theorem eq_of_only {α : Type} {only : Controller → PortIndex → α → α}
    (honly : ∀ a b, (∀ c p, only c p a = only c p b) → a = b) {l k : List α}
    (h : ∀ c p, l.map (only c p) = k.map (only c p)) : l = k := by
  induction l generalizing k with
  | nil => exact (List.map_eq_nil_iff.mp (h ⟨0⟩ ⟨0⟩).symm).symm
  | cons a l ih =>
    cases k with
    | nil => cases h ⟨0⟩ ⟨0⟩
    | cons b k =>
      have hhead : ∀ c p, only c p a = only c p b := fun c p => (List.cons.inj (h c p)).1
      have htail : ∀ c p, l.map (only c p) = k.map (only c p) := fun c p => (List.cons.inj (h c p)).2
      rw [honly a b hhead, ih htail]

theorem SimMux.eq_of_only {m n : SimMux} (h : ∀ c p, m.only c p = n.only c p) : m = n := by
  have hown := h m.descriptor.controller m.descriptor.port
  have hsame : m.descriptor = n.descriptor := by
    have hdescriptors := congrArg SimMux.descriptor hown
    rwa [descriptor_only, descriptor_only] at hdescriptors
  have hon : n.descriptor.isOn m.descriptor.controller m.descriptor.port = true :=
    MuxDescriptor.isOn_iff.mpr ⟨by rw [hsame], by rw [hsame]⟩
  unfold only at hown
  rwa [if_pos hon, if_pos (hsame ▸ hon)] at hown

theorem SimDevice.eq_of_only {d e : SimDevice} (h : ∀ c p, d.only c p = e.only c p) : d = e := by
  have hown := h d.controller d.port
  have hsame : d.toDevicePlace = e.toDevicePlace := by
    have hplaces := congrArg SimDevice.toDevicePlace hown
    rwa [toDevicePlace_only, toDevicePlace_only] at hplaces
  have hon : d.toDevicePlace.isOn d.controller d.port = true := DevicePlace.isOn_iff.mpr ⟨rfl, rfl⟩
  rwa [only_of_isOn hon, only_of_isOn (hsame ▸ hon)] at hown

/-- Two runs of errands that differ at most in how errands on different buses are interleaved. -/
structure SameByBus {α : Type} (a b : List (Errand α × α) × SharedServer SimBoard) : Prop where
  /-- On each bus every errand came to the same. -/
  values_eq : ∀ c p, a.1.filter (·.1.isOn c p) = b.1.filter (·.1.isOn c p)
  /-- On each bus the same transactions were made. -/
  history_eq : ∀ c p, a.2.server.wire.history.filter (·.isOn c p) = b.2.server.wire.history.filter (·.isOn c p)
  routingState?_eq : ∀ c p, a.2.server.routingState? c p = b.2.server.routingState? c p
  latches_eq : a.2.server.wire.muxes = b.2.server.wire.muxes
  devices_eq : a.2.server.wire.devices = b.2.server.wire.devices

theorem Server.routingState?_only (s : Server SimBoard) (c : Controller) (p : PortIndex) :
    (s.only c p).routingState? c p = s.routingState? c p :=
  congrArg (Option.map _) ((Bus.showsBuses_only c p).find? s.buses)

theorem SameByBus.of_only {α : Type} {a b : List (Errand α × α) × SharedServer SimBoard}
    (hvalues : ∀ c p, a.1.filter (·.1.isOn c p) = b.1.filter (·.1.isOn c p))
    (h : ∀ c p, a.2.only c p = b.2.only c p) : SameByBus a b where
  values_eq := hvalues
  history_eq c p := congrArg (·.server.wire.history) (h c p)
  routingState?_eq c p := by
    rw [← Server.routingState?_only, ← Server.routingState?_only b.2.server]
    exact congrArg (·.server.routingState? c p) (h c p)
  latches_eq := eq_of_only (fun _ _ => SimMux.eq_of_only) fun c p => congrArg (·.server.wire.muxes) (h c p)
  devices_eq := eq_of_only (fun _ _ => SimDevice.eq_of_only) fun c p => congrArg (·.server.wire.devices) (h c p)

namespace SharedServer

variable {controllers : List ControllerDescriptor} {muxes : List MuxDescriptor} {devices : List SimDevice}

theorem inOrder_new (controllers : List ControllerDescriptor) (muxes : List MuxDescriptor) (devices : List SimDevice) :
    (new controllers muxes devices).InOrder muxes (devices.map (·.toDevicePlace)) := by
  unfold new
  rw [foldl_addDevice]
  have hcarries : (SimBoard.new muxes).Carries muxes := by
    unfold SimBoard.Carries SimBoard.new
    rw [List.map_map]
    exact List.map_id _
  exact ⟨rfl, hcarries, rfl, rfl⟩

/-- Buses do not influence one another: on a server over a new board whose devices are behind multiplexers of their own
bus, errands that are interleaved in two ways come to the same, with the same transactions on each bus, and leave the
same beliefs, latches and devices. -/
theorem buses_independent {α : Type} (hr : RoutesApart muxes (devices.map (·.toDevicePlace))) {es fs : List (Errand α)}
    (h : ∀ c p, es.filter (·.isOn c p) = fs.filter (·.isOn c p)) :
    SameByBus ((new controllers muxes devices).performAll es) ((new controllers muxes devices).performAll fs) := by
  have hrun : ∀ c p, ((new controllers muxes devices).only c p).performAll (es.filter (·.isOn c p)) =
      ((new controllers muxes devices).only c p).performAll (fs.filter (·.isOn c p)) := fun c p => by rw [h c p]
  have hstart := inOrder_new controllers muxes devices
  simp only [performAll_only hstart hr] at hrun
  exact .of_only (fun c p => (Prod.ext_iff.mp (hrun c p)).1) fun c p => (Prod.ext_iff.mp (hrun c p)).2

end SharedServer

/-! ## Two interleavings -/

namespace TwoBuses

def devices : List SimDevice := [.new ⟨⟨1⟩, ⟨0⟩, some ⟨⟨4⟩, ⟨2⟩⟩, 0x48⟩, .new ⟨⟨1⟩, ⟨1⟩, some ⟨⟨5⟩, ⟨1⟩⟩, 0x48⟩]

/-- One of two tasks operates the device that it owns. -/
def errand (h : DeviceHandle) (o : Operation) : Errand (Reply AccessError) :=
  ⟨h.owner, h.controller, h.port, o.dialogue h, o.staysOn h⟩

def left : DeviceHandle := DevicePlace.bind ⟨⟨1⟩, ⟨0⟩, some ⟨⟨4⟩, ⟨2⟩⟩, 0x48⟩ ⟨1⟩

def right : DeviceHandle := DevicePlace.bind ⟨⟨1⟩, ⟨1⟩, some ⟨⟨5⟩, ⟨1⟩⟩, 0x48⟩ ⟨2⟩

def taken : List (Errand (Reply AccessError)) :=
  [errand left (.writeReg 5 [1]), errand right (.writeReg 5 [2]), errand left (.readReg 5 [0]),
    errand right (.readReg 5 [0])]

def inTurn : List (Errand (Reply AccessError)) :=
  [errand right (.writeReg 5 [2]), errand right (.readReg 5 [0]), errand left (.writeReg 5 [1]),
    errand left (.readReg 5 [0])]

theorem routesApart : RoutesApart muxes (devices.map (·.toDevicePlace)) := by
  refine ⟨by decide, fun q hq route hroute => ?_⟩
  obtain rfl | rfl := List.mem_pair.mp hq
  · cases hroute
    decide
  · cases hroute
    decide

theorem sameOnEachBus (c : Controller) (p : PortIndex) : taken.filter (·.isOn c p) = inTurn.filter (·.isOn c p) := by
  have hon : ∀ h o, (errand h o).isOn c p = (h.controller == c && h.port == p) := fun _ _ => rfl
  by_cases hl : (left.controller == c && left.port == p) = true
  · have hr : (right.controller == c && right.port == p) = false := by
      obtain ⟨-, rfl⟩ : left.controller = c ∧ left.port = p := by simpa using hl
      exact Bool.and_false _
    simp only [taken, inTurn, List.filter_cons, List.filter_nil, hon, hl, hr, if_true, Bool.false_eq_true, if_false]
  · rw [Bool.not_eq_true] at hl
    simp only [taken, inTurn, List.filter_cons, List.filter_nil, hon, hl, Bool.false_eq_true, if_false]

end TwoBuses

open TwoBuses in
/-- Two tasks write and read devices at one address of two buses, once taking turns and once one after the other. -/
theorem SharedServer.buses_independent_taking_turns :
    RoutesApart muxes (devices.map (·.toDevicePlace)) ∧
      (∀ c p, taken.filter (·.isOn c p) = inTurn.filter (·.isOn c p)) ∧
      SameByBus ((new TwoBuses.controllers muxes devices).performAll taken)
        ((new TwoBuses.controllers muxes devices).performAll inTurn) :=
  ⟨routesApart, sameOnEachBus, buses_independent routesApart sameOnEachBus⟩

end I2cTopology
