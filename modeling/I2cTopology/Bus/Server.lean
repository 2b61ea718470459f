import I2cTopology.Bus.Descriptor
import I2cTopology.Bus.Handle
import I2cTopology.Bus.Routing
import I2cTopology.Text.Hex

/-!
# The server of a set of buses

The server runs one request at a time: it checks the request against its descriptors, makes the request's route live,
and only then runs the device's transaction. Ownership is not its affair but the client's.

- `Bus.find?_putBack`: putting a bus back changes what is found at its own place only.
-/

namespace I2cTopology

/-! ## Buses -/

/-- One port of an initiator with the routing belief of its multiplexers. -/
structure Bus where
  controller : Controller
  port : PortIndex
  tracker : Tracker
deriving DecidableEq

namespace Bus

/-- Whether this is the bus of the given controller and port. -/
def isOn (b : Bus) (controller : Controller) (port : PortIndex) : Bool :=
  b.controller == controller && b.port == port

/-- The first bus of a controller and port. -/
def find? (controller : Controller) (port : PortIndex) (buses : List Bus) : Option Bus :=
  buses.find? (·.isOn controller port)

/-- Puts `bus` in the place of the first bus of the same controller and port. -/
def putBack (bus : Bus) : List Bus → List Bus
  | [] => []
  | b :: bs => if b.isOn bus.controller bus.port then bus :: bs else b :: putBack bus bs

theorem isOn_iff {b : Bus} {c : Controller} {p : PortIndex} : b.isOn c p = true ↔ b.controller = c ∧ b.port = p := by
  simp [isOn]

/-- Putting a bus back changes what is found at its own place only. -/
theorem find?_putBack (bus : Bus) (c : Controller) (p : PortIndex) : ∀ bs : List Bus,
    find? c p (putBack bus bs) = if bus.isOn c p then (find? c p bs).map fun _ => bus else find? c p bs
  | [] => by simp [putBack, find?]
  | b :: bs => by
    have ih := find?_putBack bus c p bs
    simp only [find?] at ih ⊢
    by_cases h : b.isOn bus.controller bus.port = true
    · have same : b.isOn c p = bus.isOn c p := by simp [isOn, isOn_iff.mp h]
      by_cases hc : bus.isOn c p = true
      · simp [putBack, h, hc, same]
      · simp [putBack, h, hc, same]
    · by_cases hb : b.isOn c p = true
      · have hc : ¬bus.isOn c p = true := fun hc =>
          h (isOn_iff.mpr ⟨(isOn_iff.mp hb).1.trans (isOn_iff.mp hc).1.symm,
            (isOn_iff.mp hb).2.trans (isOn_iff.mp hc).2.symm⟩)
        simp [putBack, h, hb, hc]
      · simpa [putBack, h, hb] using ih

end Bus

/-! ## The server -/

/-- A wire with the descriptors and routing beliefs of its buses. -/
structure Server (σ : Type) where
  wire : σ
  controllers : List ControllerDescriptor
  muxes : List MuxDescriptor
  buses : List Bus

/-- What handling a request leaves behind. -/
structure Served (σ : Type) where
  reply : Reply AccessError
  server : Server σ
  log : Log

namespace Server

variable {σ : Type}

/-- The ports of a controller in order. -/
def portsOf (c : ControllerDescriptor) : List PortIndex := (List.range c.ports.toNat).map fun p => ⟨UInt8.ofNat p⟩

/-- A server over a wire. Every port of an initiator is a bus on which nothing is connected. -/
def new (wire : σ) (controllers : List ControllerDescriptor) (muxes : List MuxDescriptor) : Server σ where
  wire
  controllers
  muxes
  buses := (controllers.filter fun c => c.mode == .initiator).flatMap fun c => (portsOf c).map fun p =>
    ⟨c.controller, p, .new ((muxes.filter (·.isOn c.controller p)).map (·.id))⟩

/-- The routing belief of a bus that is served here. -/
def routingState? (s : Server σ) (controller : Controller) (port : PortIndex) : Option RoutingState :=
  (Bus.find? controller port s.buses).map (·.tracker.state)

/-- Gives up the routing belief of every bus, so each reconnects on its next routed access. -/
def discardRouting (s : Server σ) : Server σ :=
  { s with buses := s.buses.map fun b => { b with tracker := b.tracker.markUnknown } }

/-- What is reported when every belief is given up. -/
def discardLog (s : Server σ) : Log := s.buses.flatMap (·.tracker.discardLog)

/-- Whether a request fits the descriptors. -/
def check (s : Server σ) (r : Request) : Except AccessError Unit :=
  match s.controllers.find? (·.controller == r.controller) with
  | none => .error (.badController r.controller)
  | some c =>
    if c.mode ≠ .initiator then .error (.notInitiator r.controller)
    else if !c.hasPort r.port then .error (.badPort r.controller r.port)
    else
      match r.route with
      | none => .ok ()
      | some route =>
        match s.muxes.find? fun m => m.id == route.mux && m.isOn r.controller r.port with
        | none => .error (.muxNotFound route.mux)
        | some m =>
          if m.hasSegment route.segment then .ok () else .error (.segmentNotFound route.mux route.segment)

/-- The address and the bytes of a control write. -/
def control? (muxes : List MuxDescriptor) : ControlWrite → Except AccessError (UInt8 × List UInt8)
  | .select route =>
    match muxes.find? (·.id == route.mux) with
    | none => .error (.muxNotFound route.mux)
    | some m =>
      match m.part.select? route.segment with
      | none => .error (.segmentNotFound route.mux route.segment)
      | some bytes => .ok (m.address, bytes)
  | .deselect mux =>
    match muxes.find? (·.id == mux) with
    | none => .error (.muxNotFound mux)
    | some m => .ok (m.address, m.part.deselect)

/-- Puts a control write on the wire, on the bus of request `r`. A fault counts against the route being made. -/
def sendControl [Wire σ] (muxes : List MuxDescriptor) (r : Request) (target : Route) (wire : σ) (w : ControlWrite) :
    Except AccessError Unit × σ :=
  match control? muxes w with
  | .error e => (.error e, wire)
  | .ok (address, bytes) =>
    let (reply, wire) := Wire.transact wire ⟨r.controller, r.port, address, .writeRead, bytes⟩ []
    match reply.result with
    | .ok _ => (.ok (), wire)
    | .error fault => (.error (.routingFailure target fault), wire)

/-- What is reported of a device transaction that failed. -/
def faultLog (r : Request) (fault : BusFault) : Log :=
  [.debug s!"{r.controller.label} port {r.port.number} address {Hex.byte r.address}: {fault.message}"]

/-- Runs the device's own transaction of a request on its bus. When it fails behind a multiplexer, the routing belief
is given up. -/
def transactDevice [Wire σ] (s : Server σ) (bus : Bus) (r : Request) (buffer : Buffer) : Served σ :=
  let (reply, wire) := Wire.transact s.wire r.toExchange buffer
  let s := { s with wire, buses := bus.putBack s.buses }
  match reply.result with
  | .ok count => ⟨⟨.ok count, reply.buffer⟩, s, []⟩
  | .error fault =>
    let failed := ⟨.error (.busCommunication fault), reply.buffer⟩
    if r.route.isSome then
      ⟨failed, { s with buses := { bus with tracker := bus.tracker.markUnknown }.putBack s.buses },
        faultLog r fault ++ bus.tracker.discardLog⟩
    else ⟨failed, s, faultLog r fault⟩

/-- Runs one request to its end. -/
def handle [Wire σ] (s : Server σ) (r : Request) (buffer : Buffer) : Served σ :=
  match s.check r with
  | .error e => ⟨⟨.error e, buffer⟩, s, []⟩
  | .ok _ =>
    match Bus.find? r.controller r.port s.buses with
    | none => ⟨⟨.error (.badPort r.controller r.port), buffer⟩, s, []⟩
    | some bus =>
      match r.route with
      | none => s.transactDevice bus r buffer
      | some target =>
        let routed := bus.tracker.route (sendControl s.muxes r target) target s.wire
        let bus := { bus with tracker := routed.tracker }
        let s := { s with wire := routed.wire, buses := bus.putBack s.buses }
        match routed.result with
        | .error e => ⟨⟨.error e, buffer⟩, s, routed.log⟩
        | .ok _ =>
          let served := s.transactDevice bus r buffer
          { served with log := routed.log ++ served.log }

end Server

/-! ## Clients -/

/-- A server behind its lock. The lock is poisoned when a holder was interrupted while it held the lock. -/
structure SharedServer (σ : Type) where
  server : Server σ
  poisoned : Bool

/-- The way of one task to a shared server. -/
structure Client (σ : Type) where
  task : TaskId
  shared : SharedServer σ

namespace Client

variable {σ : Type}

/-- Takes the lock. A poisoned one is mended, and since control writes may have been interrupted every routing belief
is given up. -/
def lock (shared : SharedServer σ) : Server σ × Log :=
  if shared.poisoned then (shared.server.discardRouting, shared.server.discardLog) else (shared.server, [])

/-- Sends a request if the client's task owns the handle it came from. -/
def send [Wire σ] (c : Client σ) (r : Request) (buffer : Buffer) : Sent (Client σ) :=
  if r.owner ≠ c.task then
    ⟨⟨.error (.capabilityDenied r.owner c.task), buffer⟩, c,
      [.warn s!"task {c.task.number} denied access to a device owned by task {r.owner.number}"]⟩
  else
    let (server, log) := lock c.shared
    let served := server.handle r buffer
    ⟨served.reply, { c with shared := ⟨served.server, false⟩ }, log ++ served.log⟩

instance [Wire σ] : Transport (Client σ) := ⟨send⟩

end Client

end I2cTopology
