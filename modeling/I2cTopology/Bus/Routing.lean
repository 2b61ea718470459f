import I2cTopology.Bus.Address
import I2cTopology.LogRecord

/-!
# Routing of the multiplexers on one bus

A multiplexer holds its last connection until told otherwise, so the tracker of a bus remembers what it last
connected and writes only what is needed. After any failed write that belief is given up.

- `Tracker.plan`: the control writes that make a route live, in order;
- `RoutingState.after`: the belief after one successful write;
- `carryOut`: writes are issued one after the other up to the first failure.
-/

namespace I2cTopology

/-- What a tracker believes of the multiplexers on its bus. -/
inductive RoutingState where
  /-- No segment of any multiplexer is connected. -/
  | noSegmentActive
  /-- Exactly this segment is connected. -/
  | segmentActive (route : Route)
  /-- A write failed or was interrupted, so anything may be connected. -/
  | unknown
deriving DecidableEq

/-- A write to the control register of a multiplexer. -/
inductive ControlWrite where
  /-- Connects one segment of a multiplexer and disconnects its other ones. -/
  | select (route : Route)
  /-- Disconnects every segment of a multiplexer. -/
  | deselect (mux : MuxId)
deriving DecidableEq

/-- How a route came to be live. -/
inductive RouteAction where
  | alreadyRouted
  | selected
deriving DecidableEq

/-- The routing belief of one bus. -/
structure Tracker where
  /-- The multiplexers on the bus. -/
  muxes : List MuxId
  state : RoutingState
deriving DecidableEq

namespace RoutingState

/-- The text of a belief in log records. -/
def describe : RoutingState → String
  | .noSegmentActive => "NoSegmentActive"
  | .segmentActive r =>
    s!"SegmentActive(Route \x7b mux: MuxId({r.mux.number}), segment: SegmentId({r.segment.number}) \x7d)"
  | .unknown => "Unknown"

/-- The belief after a successful control write. -/
def after : RoutingState → ControlWrite → RoutingState
  | _, .select route => .segmentActive route
  | .segmentActive _, .deselect _ => .noSegmentActive
  | state, .deselect _ => state

/-- What is reported of a successful control write. -/
def writeLog : ControlWrite → Log
  | .select route => [.debug s!"mux routing now {route.label}"]
  | .deselect _ => []

/-- What is reported when a belief is given up; one that is already given up is not reported again. -/
def discardLog : RoutingState → Log
  | .unknown => []
  | state => [.warn s!"mux routing state unknown (was {state.describe})"]

end RoutingState

/-! ## Issuing control writes -/

section

variable {ε σ : Type}

/-- What a run of control writes leaves behind. -/
structure ControlRun (ε σ : Type) where
  /-- The first failure, if there was one. -/
  result : Except ε Unit
  state : RoutingState
  wire : σ
  log : Log

/-- Issues control writes one after the other up to the first failure. -/
def carryOut (send : σ → ControlWrite → Except ε Unit × σ) (state : RoutingState) (wire : σ) :
    List ControlWrite → ControlRun ε σ
  | [] => ⟨.ok (), state, wire, []⟩
  | w :: ws =>
    match send wire w with
    | (.ok _, wire) =>
      let rest := carryOut send (state.after w) wire ws
      { rest with log := RoutingState.writeLog w ++ rest.log }
    | (.error e, wire) => ⟨.error e, .unknown, wire, state.discardLog⟩

/-- A run that fails leaves the belief given up. -/
theorem state_carryOut_of_error {send : σ → ControlWrite → Except ε Unit × σ} {state : RoutingState} {wire : σ}
    {ws : List ControlWrite} {e : ε} (h : (carryOut send state wire ws).result = .error e) :
    (carryOut send state wire ws).state = .unknown := by
  induction ws generalizing state wire with
  | nil => simp [carryOut] at h
  | cons w ws ih =>
    simp only [carryOut] at h ⊢
    split at h
    · exact ih h
    · rfl

/-- A run that succeeds leaves the belief that its writes lead to. -/
theorem state_carryOut_of_ok {send : σ → ControlWrite → Except ε Unit × σ} {state : RoutingState} {wire : σ}
    {ws : List ControlWrite} {u : Unit} (h : (carryOut send state wire ws).result = .ok u) :
    (carryOut send state wire ws).state = ws.foldl RoutingState.after state := by
  induction ws generalizing state wire with
  | nil => rfl
  | cons w ws ih =>
    simp only [carryOut] at h ⊢
    split at h
    · exact ih h
    · simp at h

end

/-! ## The tracker -/

namespace Tracker

/-- The tracker of a bus on which nothing has been connected yet. -/
def new (muxes : List MuxId) : Tracker := ⟨muxes, .noSegmentActive⟩

/-- The control writes that make `target` live, in order. A live route needs none. Another multiplexer is disconnected
first; after the belief was given up that means every other multiplexer, since any may still be connected. -/
def plan (t : Tracker) (target : Route) : List ControlWrite :=
  match t.state with
  | .segmentActive active =>
    if active = target then []
    else if active.mux = target.mux then [.select target]
    else [.deselect active.mux, .select target]
  | .noSegmentActive => [.select target]
  | .unknown => (t.muxes.filter (· ≠ target.mux)).map .deselect ++ [.select target]

/-- Gives the belief up. -/
def markUnknown (t : Tracker) : Tracker := { t with state := .unknown }

/-- What is reported when the belief is given up. -/
def discardLog (t : Tracker) : Log := t.state.discardLog

/-- What a request for a route leaves behind. -/
structure Routed (ε σ : Type) where
  result : Except ε RouteAction
  tracker : Tracker
  wire : σ
  log : Log

/-- Makes `target` live. The first failing write ends the request and the belief. -/
def route {ε σ : Type} (t : Tracker) (send : σ → ControlWrite → Except ε Unit × σ) (target : Route) (wire : σ) :
    Routed ε σ :=
  let plan := t.plan target
  let run := carryOut send t.state wire plan
  { result := run.result.map fun _ => if plan.isEmpty then .alreadyRouted else .selected
    tracker := { t with state := run.state }
    wire := run.wire
    log := run.log }

/-- Once its plan has succeeded, a request leaves its target as the belief. -/
theorem foldl_after_plan (t : Tracker) (target : Route) :
    (t.plan target).foldl RoutingState.after t.state = .segmentActive target := by
  simp only [plan]
  split
  · split
    · rename_i h; simp_all
    · split <;> rfl
  · rfl
  · simp [List.foldl_append, RoutingState.after]

end Tracker

end I2cTopology
