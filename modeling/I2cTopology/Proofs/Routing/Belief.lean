import I2cTopology.Proofs.Routing.Latches

/-!
# A tracker on a bus that fails

`LatchBank` is the hardware of one bus: a latch for each multiplexer, and a fate for each control write to come. A
write may succeed, or it may fail and leave the latch it is addressed to as it was, as the write would have had it, or
in any position at all. `TrackedBus` is such hardware with a tracker in front.

- whatever fails, the tracker's belief is right after every call, a request that succeeds leaves its target live, and
  one that fails has given the belief up and sent nothing after the failing write (`belief_right_after_calls`);
- if a failing write has its full effect or none, no two multiplexers of the bus are connected at any instant
  (`atMostOne_at_every_instant`).
-/

namespace I2cTopology

/-! ## Hardware that fails -/

/-- What a failing write leaves at the multiplexer that it is addressed to. -/
inductive Residue where
  | noEffect
  | fullEffect
  | anything (connected : Option SegmentId)

/-- What becomes of a control write. -/
inductive Fate (ε : Type) where
  | success
  | failure (error : ε) (residue : Residue)

namespace Fate

variable {ε : Type}

/-- What the sender of the write is told. -/
def result : Fate ε → Except ε Unit
  | success => .ok ()
  | failure error _ => .error error

/-- What the write does to the latches. -/
def act (w : ControlWrite) (l : Latches) : Fate ε → Latches
  | success | failure _ .fullEffect => w.apply l
  | failure _ .noEffect => l
  | failure _ (.anything connected) => fun m => if m = w.mux then connected else l m

/-- A write of this fate has its full effect or none. -/
def IsWhole (f : Fate ε) : Prop := ∀ w l, f.act w l = l ∨ f.act w l = w.apply l

end Fate

/-- A control write with its fate and the latches after it. -/
structure Instant (ε : Type) where
  write : ControlWrite
  fate : Fate ε
  latches : Latches

/-- The latches of a bus with all that has been written to them, oldest first. -/
structure LatchBank (ε : Type) where
  latches : Latches
  past : List (Instant ε)

namespace LatchBank

variable {ε : Type} (fates : Nat → Fate ε)

/-- Sends a control write; `fates n` is the fate of the write after `n` others. -/
def send (b : LatchBank ε) (w : ControlWrite) : Except ε Unit × LatchBank ε :=
  let fate := fates b.past.length
  let latches := fate.act w b.latches
  (fate.result, ⟨latches, b.past ++ [⟨w, fate, latches⟩]⟩)

variable {fates}

theorem send_of_success {b : LatchBank ε} (w : ControlWrite) (h : fates b.past.length = .success) :
    send fates b w = (.ok (), ⟨w.apply b.latches, b.past ++ [⟨w, .success, w.apply b.latches⟩]⟩) := by
  simp only [send, h]
  rfl

theorem send_of_failure {b : LatchBank ε} (w : ControlWrite) {e : ε} {r : Residue}
    (h : fates b.past.length = .failure e r) :
    send fates b w = (.error e, ⟨(Fate.failure e r).act w b.latches,
      b.past ++ [⟨w, .failure e r, (Fate.failure e r).act w b.latches⟩]⟩) := by
  simp only [send, h]
  rfl

variable (fates)

theorem acts : ActsOnLatches (send fates) (fun _ => True) (fun _ => True) LatchBank.latches where
  sound_send _ _ := trivial
  of_ok {b w u} _ _ hr := by
    cases hf : fates b.past.length with
    | success => rw [send_of_success w hf]
    | failure e r => rw [send_of_failure w hf] at hr; cases hr
  of_error {b w e} _ _ _ m hm := by
    simp only [send]
    cases fates b.past.length with
    | success => simp [Fate.act, ControlWrite.apply, hm]
    | failure _ r => cases r <;> simp [Fate.act, ControlWrite.apply, hm]

/-- A run that fails has sent successful writes and then the failing one, and nothing after it. -/
theorem past_carryOut_of_error {e : ε} {ws : List ControlWrite} {state : RoutingState} {b : LatchBank ε}
    (h : (carryOut (send fates) state b ws).result = .error e) :
    ∃ done failing, (carryOut (send fates) state b ws).wire.past = b.past ++ done ++ [failing] ∧
      (∀ i ∈ done, i.fate = .success) ∧ failing.fate.result = .error e := by
  induction ws generalizing state b with
  | nil => cases h
  | cons w ws ih =>
    cases hf : fates b.past.length with
    | success =>
      simp only [carryOut, send_of_success w hf] at h ⊢
      obtain ⟨done, failing, hp, hd, hl⟩ := ih h
      refine ⟨⟨w, .success, w.apply b.latches⟩ :: done, failing, ?_, ?_, hl⟩
      · rw [hp]; simp
      · intro i hi
        rcases List.mem_cons.mp hi with rfl | hi
        · rfl
        · exact hd i hi
    | failure e' r =>
      simp only [carryOut, send_of_failure w hf, Except.error.injEq] at h ⊢
      exact ⟨[], ⟨w, .failure e' r, (Fate.failure e' r).act w b.latches⟩, by simp, by simp, by rw [← h]; rfl⟩

variable {fates}

/-- If every write has its full effect or none, the latches are at every instant of a run, and after it, those after
some of its first writes. -/
theorem cut_carryOut (hw : ∀ n, (fates n).IsWhole) (ws : List ControlWrite) (state : RoutingState)
    (b : LatchBank ε) :
    (∃ k, (carryOut (send fates) state b ws).wire.latches = ControlWrite.applyAll (ws.take k) b.latches) ∧
      ∀ i ∈ (carryOut (send fates) state b ws).wire.past,
        i ∈ b.past ∨ ∃ k, i.latches = ControlWrite.applyAll (ws.take k) b.latches := by
  induction ws generalizing state b with
  | nil => exact ⟨⟨0, rfl⟩, fun _ hi => Or.inl hi⟩
  | cons w ws ih =>
    cases hf : fates b.past.length with
    | success =>
      simp only [carryOut, send_of_success w hf]
      -- cutting the whole run one write later is cutting the rest of it
      obtain ⟨⟨k, hk⟩, hpast⟩ :=
        ih (state.after w) ⟨w.apply b.latches, b.past ++ [⟨w, .success, w.apply b.latches⟩]⟩
      refine ⟨⟨k + 1, hk⟩, fun i hi => ?_⟩
      rcases hpast i hi with hi | ⟨j, hj⟩
      · rcases List.mem_append.mp hi with hi | hi
        · exact Or.inl hi
        · rw [List.mem_singleton.mp hi]
          exact Or.inr ⟨1, rfl⟩
      · exact Or.inr ⟨j + 1, hj⟩
    | failure e r =>
      simp only [carryOut, send_of_failure w hf]
      have hcut : ∃ k, (Fate.failure e r).act w b.latches = ControlWrite.applyAll ((w :: ws).take k) b.latches := by
        have hwhole := hw b.past.length w b.latches
        rw [hf] at hwhole
        rcases hwhole with h | h
        · exact ⟨0, h⟩
        · exact ⟨1, h⟩
      refine ⟨hcut, fun i hi => ?_⟩
      rcases List.mem_append.mp hi with hi | hi
      · exact Or.inl hi
      · rw [List.mem_singleton.mp hi]
        exact Or.inr hcut

end LatchBank

/-! ## Calls to the tracker -/

/-- The latches of a bus with their tracker. -/
structure TrackedBus (ε : Type) where
  tracker : Tracker
  bank : LatchBank ε

/-- What can be asked of a tracker. -/
inductive RoutingCall where
  | route (target : Route)
  | markUnknown

/-- A call asks for multiplexers of the bus only. -/
def RoutingCall.FitsBus (muxes : List MuxId) : RoutingCall → Prop
  | route target => target.mux ∈ muxes
  | markUnknown => True

instance (muxes : List MuxId) : DecidablePred (RoutingCall.FitsBus muxes)
  | .route target => inferInstanceAs (Decidable (target.mux ∈ muxes))
  | .markUnknown => .isTrue trivial

namespace TrackedBus

variable {ε : Type} (fates : Nat → Fate ε)

/-- A bus on which nothing is connected. -/
def fresh (muxes : List MuxId) : TrackedBus ε := ⟨.new muxes, ⟨fun _ => none, []⟩⟩

/-- A bus of which nothing is known. -/
def lost (muxes : List MuxId) (latches : Latches) : TrackedBus ε := ⟨⟨muxes, .unknown⟩, ⟨latches, []⟩⟩

def request (b : TrackedBus ε) (target : Route) : Tracker.Routed ε (LatchBank ε) :=
  b.tracker.route (LatchBank.send fates) target b.bank

def call (b : TrackedBus ε) : RoutingCall → TrackedBus ε
  | .route target => ⟨(b.request fates target).tracker, (b.request fates target).wire⟩
  | .markUnknown => ⟨b.tracker.markUnknown, b.bank⟩

def run (b : TrackedBus ε) (calls : List RoutingCall) : TrackedBus ε := calls.foldl (call fates) b

/-- The tracker knows the multiplexers of the bus and believes nothing that is wrong. -/
structure Right (muxes : List MuxId) (b : TrackedBus ε) : Prop where
  muxes_eq : b.tracker.muxes = muxes
  describes : b.tracker.state.Describes muxes b.bank.latches

variable {fates} {muxes : List MuxId} {b : TrackedBus ε}

theorem right_fresh : (fresh muxes : TrackedBus ε).Right muxes := ⟨rfl, fun _ _ => rfl⟩

theorem right_lost (latches : Latches) : (lost muxes latches : TrackedBus ε).Right muxes := ⟨rfl, trivial⟩

theorem Right.call (h : b.Right muxes) : ∀ {c : RoutingCall}, c.FitsBus muxes → (b.call fates c).Right muxes
  | .route target, hc => by
    obtain ⟨rfl, hd⟩ := h
    exact ⟨rfl, (LatchBank.acts fates).describes_route (fun _ _ => trivial) trivial hc hd⟩
  | .markUnknown, _ => ⟨h.muxes_eq, trivial⟩

theorem Right.run {calls : List RoutingCall} {b : TrackedBus ε} (h : b.Right muxes)
    (hc : ∀ c ∈ calls, c.FitsBus muxes) : (b.run fates calls).Right muxes := by
  induction calls generalizing b with
  | nil => exact h
  | cons c calls ih =>
    show ((b.call fates c).run fates calls).Right muxes
    have hnext : (b.call fates c).Right muxes := h.call (hc c List.mem_cons_self)
    exact ih hnext fun d hd => hc d (List.mem_cons_of_mem _ hd)

/-- **Beliefs are right, whatever fails.** On a bus that starts with nothing connected and the tracker knowing it, or
with anything connected and the tracker knowing nothing: after any calls the belief is right about the latches, and
the next request leaves its target live if it succeeds; if it fails it leaves the belief given up, having sent nothing
after the write that failed. -/
theorem belief_right_after_calls (fates : Nat → Fate ε) (muxes : List MuxId) {start : TrackedBus ε}
    (hstart : start = fresh muxes ∨ ∃ latches, start = lost muxes latches) (calls : List RoutingCall)
    (hcalls : ∀ c ∈ calls, c.FitsBus muxes) :
    let b := start.run fates calls
    b.tracker.state.Describes muxes b.bank.latches ∧
      ∀ target : Route, target.mux ∈ muxes →
        (∀ action, (b.request fates target).result = .ok action →
          (b.request fates target).tracker.state = .segmentActive target) ∧
        ∀ error, (b.request fates target).result = .error error →
          (b.request fates target).tracker.state = .unknown ∧
            ∃ done failing, (b.request fates target).wire.past = b.bank.past ++ done ++ [failing] ∧
              (∀ i ∈ done, i.fate = .success) ∧ failing.fate.result = .error error := by
  intro b
  have hright : start.Right muxes := by
    rcases hstart with rfl | ⟨latches, rfl⟩
    · exact right_fresh
    · exact right_lost latches
  refine ⟨(hright.run hcalls).describes, fun target _ => ⟨fun _ hok => ?_, fun error herror => ⟨?_, ?_⟩⟩⟩
  · exact Tracker.state_route_of_ok hok
  · exact Tracker.state_route_of_error herror
  · apply LatchBank.past_carryOut_of_error
    exact Tracker.carryOut_of_route_error herror

/-- A second write that fails and garbles the latch of the first multiplexer: the third call finds the belief given up
and disconnects that multiplexer anew. -/
theorem belief_right_after_garbled_write :
    let fates : Nat → Fate Unit := fun n => if n = 1 then .failure () (.anything (some ⟨3⟩)) else .success
    let muxes : List MuxId := [⟨0⟩, ⟨1⟩]
    let calls : List RoutingCall := [.route ⟨⟨0⟩, ⟨1⟩⟩, .route ⟨⟨1⟩, ⟨2⟩⟩, .route ⟨⟨1⟩, ⟨2⟩⟩]
    let b := (fresh muxes).run fates calls
    (∀ c ∈ calls, c.FitsBus muxes) ∧ b.tracker.state = .segmentActive ⟨⟨1⟩, ⟨2⟩⟩ ∧
      b.tracker.state.Describes muxes b.bank.latches := by
  intro fates muxes calls b
  have hcalls : ∀ c ∈ calls, c.FitsBus muxes := by decide
  exact ⟨hcalls, by decide, (belief_right_after_calls fates muxes (Or.inl rfl) calls hcalls).1⟩

/-! ## One connection at a time -/

/-- The belief is right, and no two multiplexers of the bus are connected or have ever been. -/
structure Exclusive (muxes : List MuxId) (b : TrackedBus ε) : Prop extends b.Right muxes where
  now : AtMostOneConnected muxes b.bank.latches
  ever : ∀ i ∈ b.bank.past, AtMostOneConnected muxes i.latches

theorem exclusive_fresh : (fresh muxes : TrackedBus ε).Exclusive muxes where
  toRight := right_fresh
  now _ _ _ _ h := absurd rfl h
  ever _ hi := absurd hi List.not_mem_nil

/-- A call keeps connections apart if every failing write has its full effect or none. -/
theorem Exclusive.call (hw : ∀ n, (fates n).IsWhole) (h : b.Exclusive muxes) : ∀ {c : RoutingCall},
    c.FitsBus muxes → (b.call fates c).Exclusive muxes
  | .route target, hc => by
    obtain ⟨⟨k, hk⟩, hpast⟩ := LatchBank.cut_carryOut hw (b.tracker.plan target) b.tracker.state b.bank
    -- a call that fails has carried out its plan up to the failing write, with or without that one
    have hcut : ∀ k, AtMostOneConnected muxes
        (ControlWrite.applyAll ((b.tracker.plan target).take k) b.bank.latches) := by
      obtain ⟨⟨rfl, hd⟩, hnow, -⟩ := h
      exact Tracker.atMostOne_plan_cut hd hnow
    refine ⟨h.toRight.call hc, ?_, fun i hi => ?_⟩
    · show AtMostOneConnected muxes (carryOut (LatchBank.send fates) _ b.bank _).wire.latches
      rw [hk]
      exact hcut k
    · rcases hpast i hi with hi | ⟨j, hj⟩
      · exact h.ever i hi
      · rw [hj]
        exact hcut j
  | .markUnknown, hc => ⟨h.toRight.call hc, h.now, h.ever⟩

theorem Exclusive.run (hw : ∀ n, (fates n).IsWhole) {calls : List RoutingCall} {b : TrackedBus ε}
    (h : b.Exclusive muxes) (hc : ∀ c ∈ calls, c.FitsBus muxes) : (b.run fates calls).Exclusive muxes := by
  induction calls generalizing b with
  | nil => exact h
  | cons c calls ih =>
    show ((b.call fates c).run fates calls).Exclusive muxes
    have hnext : (b.call fates c).Exclusive muxes := h.call hw (hc c List.mem_cons_self)
    exact ih hnext fun d hd => hc d (List.mem_cons_of_mem _ hd)

/-- **One connection at a time.** On a bus that starts with nothing connected and where a failing write has its full
effect or none, no two multiplexers are connected after any calls, nor were they after any single write on the way. -/
theorem atMostOne_at_every_instant {fates : Nat → Fate ε} (hwhole : ∀ n, (fates n).IsWhole) (muxes : List MuxId)
    (calls : List RoutingCall) (hcalls : ∀ c ∈ calls, c.FitsBus muxes) :
    let b := (fresh muxes : TrackedBus ε).run fates calls
    AtMostOneConnected muxes b.bank.latches ∧ ∀ i ∈ b.bank.past, AtMostOneConnected muxes i.latches :=
  have h := exclusive_fresh.run hwhole hcalls
  ⟨h.now, h.ever⟩

/-- A deselection that fails without effect, in a call that leaves the belief given up, and then a selection that is
reported as failed though it took effect. -/
theorem atMostOne_after_misreported_writes :
    let fates : Nat → Fate Unit := fun n =>
      if n = 1 then .failure () .noEffect else if n = 3 then .failure () .fullEffect else .success
    let muxes : List MuxId := [⟨0⟩, ⟨1⟩]
    let calls : List RoutingCall := [.route ⟨⟨0⟩, ⟨1⟩⟩, .route ⟨⟨1⟩, ⟨2⟩⟩, .route ⟨⟨1⟩, ⟨2⟩⟩]
    let b := (fresh muxes).run fates calls
    (∀ n, (fates n).IsWhole) ∧ (∀ c ∈ calls, c.FitsBus muxes) ∧ b.bank.past.length = 4 ∧
      ∀ i ∈ b.bank.past, AtMostOneConnected muxes i.latches := by
  intro fates muxes calls b
  have hwhole : ∀ n, (fates n).IsWhole := by
    intro n w l
    by_cases h1 : n = 1
    · exact Or.inl (by simp [fates, h1, Fate.act])
    · by_cases h3 : n = 3 <;> exact Or.inr (by simp [fates, h1, h3, Fate.act])
  have hcalls : ∀ c ∈ calls, c.FitsBus muxes := by decide
  exact ⟨hwhole, hcalls, by decide, (atMostOne_at_every_instant hwhole muxes calls hcalls).2⟩

end TrackedBus

end I2cTopology
