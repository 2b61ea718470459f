import I2cTopology.Proofs.Artifact.Setup
import I2cTopology.Proofs.Bus.Calls

/-!
# Handles and their server

The handles and the server of the tables of a document are made for each other, over any wire and in any state that the
server can get into (`BoardTables.handles_fit`): a request through the handle on a device of an initiator passes the
checks, and each control write on its way finds its multiplexer; one through the handle on a device of a target fails,
since the server does not know the controller, and nothing is put on the wire.
-/

namespace I2cTopology

/-! ## Clients on record -/

namespace Client

variable {σ : Type}

/-- Taking the lock puts nothing on the wire. -/
theorem lock_recorded (shared : SharedServer σ) :
    (lock ⟨shared.server.recorded, shared.poisoned⟩).1 = (lock shared).1.recorded := by
  unfold lock
  cases shared.poisoned <;> rfl

variable [Wire σ] {c : Client σ} {r : Request}

/-- What a client's request asks the wire for, in order. -/
def calls (c : Client σ) (r : Request) (buffer : Buffer) : List Call :=
  (send ⟨c.task, ⟨c.shared.server.recorded, c.shared.poisoned⟩⟩ r buffer).transport.shared.server.wire.calls

theorem calls_of_owner (h : r.owner = c.task) (buffer : Buffer) :
    c.calls r buffer = (lock c.shared).1.calls r buffer := by
  rw [calls, send_of_owner (c := ⟨c.task, ⟨c.shared.server.recorded, c.shared.poisoned⟩⟩) h]
  simp only [lock_recorded]
  rfl

end Client

/-! ## Servers of tables -/

namespace BoardTables.BuiltFrom

variable {tables : BoardTables} {t : Topology} {cs : List ControllerDecl} {d : DeviceDecl} {b : BoardDevice}
  {σ : Type} {s : Server σ} {r : Request}
  (h : tables.BuiltFrom t) (ht : t.Declares cs) (hf : ControllersFit cs) (hd : d.PlacedAs cs b)
include h ht hf hd

theorem check_of_onTarget (hon : d.OnTarget cs) (hcontrollers : s.controllers = tables.controllers)
    (hr : r.place = b.place) : s.check r = .error (.badController r.controller) := by
  have hnone := h.find?_of_onTarget ht hf hd hon
  rw [← hcontrollers, ← hr] at hnone
  unfold Server.check
  rw [show s.controllers.find? (·.controller == r.controller) = none from hnone]

theorem wiredOn_of_request (hon : ¬d.OnTarget cs) (hr : r.place = b.place) {target : Route}
    (htarget : r.route = some target) : target.WiredOn tables.muxes r.controller r.port := by
  have hroute : b.place.route = some target := by rw [← hr]; exact htarget
  have hwired := h.route_wired ht hf hd hon hroute
  rw [← hr] at hwired
  exact hwired

theorem check_of_not_onTarget (hon : ¬d.OnTarget cs) (hcontrollers : s.controllers = tables.controllers)
    (hmuxes : s.muxes = tables.muxes) (hr : r.place = b.place) : s.check r = .ok () := by
  obtain ⟨c, hfind, hmode, hport⟩ := h.on_initiator ht hf hd hon
  rw [← hcontrollers, ← hr] at hfind
  rw [← hr] at hport
  refine Server.check_eq_ok hfind hmode hport ?_ fun target htarget => ?_
  · rw [hmuxes]
    exact (h.wellWired ht hf).selectable
  · rw [hmuxes]
    exact h.wiredOn_of_request ht hf hd hon hr htarget

end BoardTables.BuiltFrom

/-! ## Requests through handles -/

/-- What a client's request for a device comes to. -/
structure DeviceDecl.Requested {σ : Type} [Wire σ] (cs : List ControllerDecl) (d : DeviceDecl) (c : Client σ)
    (r : Request) (buffer : Buffer) : Prop where
  configuration_iff : (∃ e, (c.send r buffer).reply.result = .error e ∧ e.IsConfiguration) ↔ d.OnTarget cs
  refused : d.OnTarget cs →
    (c.send r buffer).reply = ⟨.error (.badController r.controller), buffer⟩ ∧ c.calls r buffer = []
  /-- Whatever is believed to be connected, each control write on the way finds its multiplexer and its segment. -/
  finds_muxes : ¬d.OnTarget cs → ∀ target, r.route = some target →
    ∃ bus, Bus.find? r.controller r.port (Client.lock c.shared).1.buses = some bus ∧
      ∀ w ∈ bus.tracker.plan target, ∃ m ∈ c.shared.server.muxes, m.isOn r.controller r.port = true ∧ m.id = w.mux ∧
        ∃ bytes, Server.control? c.shared.server.muxes w = .ok (m.address, bytes)

namespace BoardTables

variable {tables : BoardTables} {t : Topology} {σ : Type} [Wire σ]

/-- A request of an owner for the place of a device, to a server that was given the tables. -/
theorem BuiltFrom.requested {cs : List ControllerDecl} {d : DeviceDecl} {b : BoardDevice} (h : tables.BuiltFrom t)
    (ht : t.Declares cs) (hf : ControllersFit cs) (hd : d.PlacedAs cs b) {wire : σ} {s : Server σ}
    (hs : (tables.server wire).Reachable s) (poisoned : Bool) {r : Request} (hr : r.place = b.place)
    (buffer : Buffer) : d.Requested cs ⟨r.owner, ⟨s, poisoned⟩⟩ r buffer := by
  have hstart : (tables.server wire).Orderly := Server.orderly_new wire tables.controllers tables.muxes
  -- taking the lock leaves a state that the server can get into
  obtain ⟨ho, hcontrollers, hlocked⟩ := (hs.lock poisoned).orderly hstart
  have hmuxes : (Client.lock ⟨s, poisoned⟩).1.muxes = tables.muxes := hlocked
  have hsmuxes : s.muxes = tables.muxes := (hs.orderly hstart).2.2
  have hselectable : Selectable tables.muxes := (h.wellWired ht hf).selectable
  have hsend := Client.send_of_owner (c := ⟨r.owner, ⟨s, poisoned⟩⟩) (r := r) rfl buffer
  refine ⟨?_, fun hon => ?_, fun hon target htarget => ?_⟩
  · rw [hsend, ho.isConfiguration_iff (hmuxes ▸ hselectable)]
    constructor
    · intro hne
      by_contra hon
      exact hne (h.check_of_not_onTarget ht hf hd hon hcontrollers hmuxes hr)
    · intro hon hok
      rw [h.check_of_onTarget ht hf hd hon hcontrollers hr] at hok
      cases hok
  · have hcheck := h.check_of_onTarget ht hf hd hon hcontrollers hr
    rw [hsend, Client.calls_of_owner rfl, Server.handle_of_check_error hcheck]
    exact ⟨rfl, Server.calls_of_check_error hcheck buffer⟩
  · have hcheck := h.check_of_not_onTarget ht hf hd hon hcontrollers hmuxes hr
    obtain ⟨bus, hbus⟩ := Server.exists_bus ho.served hcheck
    obtain ⟨htracked, hnames⟩ := ho.tracked _ _ _ hbus
    have hwired := h.wiredOn_of_request ht hf hd hon hr htarget
    refine ⟨bus, hbus, fun w hw => ?_⟩
    have hfits := Server.fitsBus_of_mem_plan hselectable (hmuxes ▸ htracked) hnames hwired w hw
    obtain ⟨m, hm, hon', hid, bytes, hcontrol, -, -⟩ := Server.exists_control? hselectable hfits
    simp only [hsmuxes]
    exact ⟨m, hm, hon', hid, bytes, hcontrol⟩

/-- **Handles fit their server.** Through the handle on a device, in any state that the server of the same tables can
get into over any wire, the owner's request fails with a configuration error exactly if the device sits on a target. -/
theorem handles_fit {d : Document} (hresolve : d.resolve = .ok t) {dispositions : List Disposition}
    (hinitiator : .initiator ∈ dispositions) {o : EmitOptions} (hfull : o.standalone = false) {a : Artifact}
    (ha : Artifact.ofTopology t dispositions o = .ok a) {registry : CheckRegistry}
    (htables : a.tables registry = .ok tables) {wire : σ} {s : Server σ} (hs : (tables.server wire).Reachable s)
    (poisoned : Bool) (owner : TaskId) (op : Op) (bytes : List UInt8) (buffer : Buffer) :
    (tables.handles owner).length = d.devices.length ∧
      ∀ (i : Nat) (handle : DeviceHandle) (device : DeviceDecl), (tables.handles owner)[i]? = some handle →
        d.devices[i]? = some device →
        device.Requested d.controllers ⟨owner, ⟨s, poisoned⟩⟩ (handle.request op bytes) buffer := by
  have hcovers := Document.covers_of_resolve hresolve
  have hfit := Document.controllersFit_of_resolve hresolve
  have hbuilt := Artifact.builtFrom_of_tables hinitiator hfull ha htables
  refine ⟨?_, fun i handle device hhandle hdevice => ?_⟩
  · rw [hbuilt.handles_eq, List.length_map, hcovers.length_devices]
  · obtain ⟨b, hb, hplaced⟩ := hcovers.placed i device hdevice
    rw [hbuilt.handles_eq, List.getElem?_map, hb] at hhandle
    obtain rfl := Option.some.inj hhandle
    exact hbuilt.requested (r := (b.place.bind owner).request op bytes) hcovers.declares hfit hplaced hs poisoned rfl
      buffer

end BoardTables

/-! ## A board with a target -/

namespace FrontAndSide

def front : ControllerDecl :=
  { controller := 1, ports := .ofList [("B", { name := some "front", muxes := [{ address := 0x70 }] })] }

def side : ControllerDecl := { controller := 2, target := true, ports := .ofList [("A", {})] }

/-- Two devices on a bus with a multiplexer, the second one behind it, and one on a target. -/
def document (address : UInt8) : Document where
  controllers := [front, side]
  devices := [
    { device := "tmp117", bus := some "front", address := 0x48 },
    { device := "tmp117", bus := some "front", address, mux := some 1, segment := some 2 },
    { device := "at24csw080", controller := some 2, address := 0x50 }]

def board (address : UInt8) : Topology := (document address).resolve.toOption.getD {}

def places (address : UInt8) : List DevicePlace :=
  [⟨⟨1⟩, ⟨0⟩, none, 0x48⟩, ⟨⟨1⟩, ⟨0⟩, some ⟨⟨0⟩, ⟨2⟩⟩, address⟩, ⟨⟨2⟩, ⟨0⟩, none, 0x50⟩]

def artifact (address : UInt8) : Artifact where
  moduleName := "i2c_config"
  corePath := "i2c_core"
  standalone := false
  devices := (board address).devices.map .ofDevice
  bus := some
    { mode := .initiator
      controllers := [⟨⟨1⟩, .initiator, 1⟩]
      ports := [⟨"i2c1_b", ⟨0⟩⟩]
      muxes := [⟨⟨0⟩, ⟨1⟩, ⟨0⟩, .pca9545, 0x70, 4, none⟩] }
  accessors := none
  sensors := none
  validation := none

def tables (address : UInt8) : BoardTables where
  controllers := [⟨⟨1⟩, .initiator, 1⟩]
  pins := []
  muxes := [⟨⟨0⟩, ⟨1⟩, ⟨0⟩, .pca9545, 0x70, 4, none⟩]
  devices := places address
  validation := []
  sensors := []

def handle (address : UInt8) (i : Nat) : DeviceHandle := ((places address).getD i ⟨⟨0⟩, ⟨0⟩, none, 0⟩).bind ⟨3⟩

/-- The server after the device behind the multiplexer has been asked for, which did not answer. -/
def server : Server SimBoard :=
  (((tables 0x4c).server (SimBoard.new (tables 0x4c).muxes)).handle ((handle 0x4c 1).request .writeRead [0]) [0]).server

/-- Whoever asks for the device on the target is turned away. -/
theorem handles_fit_target :
    (document 0x4c).resolve = .ok (board 0x4c) ∧
      Artifact.ofTopology (board 0x4c) [.initiator] {} = .ok (artifact 0x4c) ∧
      (artifact 0x4c).tables {} = .ok (tables 0x4c) ∧
      ((tables 0x4c).server (SimBoard.new (tables 0x4c).muxes)).Reachable server ∧
      ∃ device, DeviceDecl.OnTarget (document 0x4c).controllers device ∧
        device.Requested (document 0x4c).controllers ⟨⟨3⟩, ⟨server, false⟩⟩ ((handle 0x4c 2).request .writeRead [0])
          [0] := by
  have hresolve : (document 0x4c).resolve = .ok (board 0x4c) := rfl
  have ha : Artifact.ofTopology (board 0x4c) [.initiator] {} = .ok (artifact 0x4c) := rfl
  have htables : (artifact 0x4c).tables {} = .ok (tables 0x4c) := rfl
  have hs : ((tables 0x4c).server (SimBoard.new (tables 0x4c).muxes)).Reachable server := .handle _ _ .refl
  have hfit := (BoardTables.handles_fit hresolve (List.mem_singleton_self _) rfl ha htables hs false ⟨3⟩ .writeRead [0]
    [0]).2 2 (handle 0x4c 2) _ rfl rfl
  have hside : side ∈ (document 0x4c).controllers := List.mem_cons_of_mem _ (List.mem_singleton_self _)
  have hsite : (⟨⟨2⟩, 0, "A", {}⟩ : PortSite) ∈ side.sites := List.mem_singleton_self _
  refine ⟨hresolve, ha, htables, hs, _, ⟨side, hside, rfl, _, hsite, ?_⟩, hfit⟩
  exact .ofController rfl rfl rfl hside rfl

end FrontAndSide

end I2cTopology
