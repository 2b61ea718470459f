import I2cTopology.Bus.Routing
import Mathlib.Data.List.Basic

/-!
# The latches behind a tracker

A multiplexer is a latch: it connects what was last written to it. `ControlWrite.apply` is the effect of a successful
control write, and `RoutingState.Describes` says when a belief is right about the latches of a bus.

- a plan that is carried out brings the latches to what the tracker then believes (`describes_plan`);
- cut anywhere, it leaves at most one multiplexer connected if no more were before (`atMostOne_plan_cut`);
- any way of sending control writes that acts on latches (`ActsOnLatches`) keeps a tracker's belief right, whichever
  write fails (`ActsOnLatches.describes_route`), and touches no latch off the plan
  (`ActsOnLatches.latches_carryOut_of_ne`).
-/

namespace I2cTopology

/-- What each multiplexer connects. -/
abbrev Latches := MuxId → Option SegmentId

/-! ## Effects of control writes -/

namespace ControlWrite

/-- The multiplexer that a write is addressed to. -/
def mux : ControlWrite → MuxId
  | .select route => route.mux
  | .deselect mux => mux

/-- What that multiplexer connects after the write. -/
def connects : ControlWrite → Option SegmentId
  | .select route => some route.segment
  | .deselect _ => none

/-- The effect of a successful write. -/
def apply (w : ControlWrite) (l : Latches) : Latches := fun m => if m = w.mux then w.connects else l m

def applyAll (ws : List ControlWrite) (l : Latches) : Latches := ws.foldl (fun l w => w.apply l) l

theorem applyAll_append (ws vs : List ControlWrite) (l : Latches) :
    applyAll (ws ++ vs) l = applyAll vs (applyAll ws l) := List.foldl_append

/-- A latch that no write is addressed to keeps its segment. -/
theorem applyAll_of_ne {ws : List ControlWrite} {l : Latches} {m : MuxId} (h : ∀ w ∈ ws, w.mux ≠ m) :
    applyAll ws l m = l m := by
  induction ws generalizing l with
  | nil => rfl
  | cons w ws ih =>
    have hm : m ≠ w.mux := fun e => h w List.mem_cons_self e.symm
    have hws : ∀ v ∈ ws, v.mux ≠ m := fun v hv => h v (List.mem_cons_of_mem _ hv)
    show applyAll ws (w.apply l) m = l m
    rw [ih hws]
    simp [apply, hm]

/-- Disconnecting multiplexers clears their latches and no others. -/
theorem applyAll_deselect (ms : List MuxId) (l : Latches) (m : MuxId) :
    applyAll (ms.map .deselect) l m = if m ∈ ms then none else l m := by
  induction ms generalizing l with
  | nil => simp [applyAll]
  | cons k ms ih =>
    show applyAll (ms.map .deselect) ((deselect k).apply l) m = _
    rw [ih]
    by_cases hk : m = k <;> by_cases hm : m ∈ ms <;> simp [apply, mux, connects, hk, hm]

end ControlWrite

/-! ## Right beliefs -/

/-- A belief is right about the latches of the multiplexers on a bus. -/
def RoutingState.Describes (muxes : List MuxId) (l : Latches) : RoutingState → Prop
  | .noSegmentActive => ∀ m ∈ muxes, l m = none
  | .segmentActive route =>
    route.mux ∈ muxes ∧ l route.mux = some route.segment ∧ ∀ m ∈ muxes, m ≠ route.mux → l m = none
  | .unknown => True

theorem RoutingState.Describes.congr {muxes : List MuxId} {l k : Latches} (h : ∀ m ∈ muxes, k m = l m) :
    ∀ {state : RoutingState}, state.Describes muxes l → state.Describes muxes k
  | .noSegmentActive, hd => fun m hm => (h m hm).trans (hd m hm)
  | .segmentActive _, hd => ⟨hd.1, (h _ hd.1).trans hd.2.1, fun m hm hne => (h m hm).trans (hd.2.2 m hm hne)⟩
  | .unknown, _ => trivial

/-- A belief names only multiplexers of the bus. -/
def RoutingState.Names (muxes : List MuxId) : RoutingState → Prop
  | .segmentActive route => route.mux ∈ muxes
  | _ => True

theorem RoutingState.Describes.names {muxes : List MuxId} {l : Latches} : ∀ {state : RoutingState},
    state.Describes muxes l → state.Names muxes
  | .noSegmentActive, _ => trivial
  | .segmentActive _, hd => hd.1
  | .unknown, _ => trivial

/-- No multiplexer of the bus but `mux` connects anything. -/
def ClearBut (muxes : List MuxId) (mux : MuxId) (l : Latches) : Prop := ∀ m ∈ muxes, m ≠ mux → l m = none

/-- No two multiplexers of the bus connect anything. -/
def AtMostOneConnected (muxes : List MuxId) (l : Latches) : Prop :=
  ∀ m ∈ muxes, ∀ k ∈ muxes, l m ≠ none → l k ≠ none → m = k

theorem ClearBut.atMostOne {muxes : List MuxId} {mux : MuxId} {l : Latches} (h : ClearBut muxes mux l) :
    AtMostOneConnected muxes l := by
  intro m hm k hk hml hkl
  have only : ∀ j ∈ muxes, l j ≠ none → j = mux := fun j hj hl => Decidable.byContradiction fun hne => hl (h j hj hne)
  rw [only m hm hml, only k hk hkl]

/-- Disconnecting keeps connections apart. -/
theorem AtMostOneConnected.mono {muxes : List MuxId} {l k : Latches} (h : AtMostOneConnected muxes l)
    (hk : ∀ m, k m = none ∨ k m = l m) : AtMostOneConnected muxes k := by
  have connected : ∀ m, k m ≠ none → l m ≠ none := fun m hm => by
    rcases hk m with hn | he
    · exact absurd hn hm
    · rwa [← he]
  exact fun m hm j hj hml hjl => h m hm j hj (connected m hml) (connected j hjl)

namespace Tracker

variable {t : Tracker} {target : Route} {l : Latches}

open ControlWrite

/-- Every write of a plan is addressed to a multiplexer of the bus, as long as the belief names no other. -/
theorem mux_mem_of_mem_plan {w : ControlWrite} (hn : t.state.Names t.muxes) (ht : target.mux ∈ t.muxes)
    (hw : w ∈ t.plan target) : w.mux ∈ t.muxes := by
  unfold plan at hw
  split at hw
  · rename_i active hs
    rw [hs] at hn
    split at hw
    · cases hw
    · split at hw <;> simp only [List.mem_cons, List.not_mem_nil, or_false] at hw
      · rw [hw]; exact ht
      · rcases hw with rfl | rfl
        · exact hn
        · exact ht
  · rw [List.mem_singleton.mp hw]; exact ht
  · rcases List.mem_append.mp hw with hw | hw
    · obtain ⟨m, hm, rfl⟩ := List.mem_map.mp hw
      exact (List.mem_filter.mp hm).1
    · rw [List.mem_singleton.mp hw]; exact ht

/-- The writes of a plan that select at all select its target. -/
theorem select_of_mem_plan {route : Route} (h : .select route ∈ t.plan target) : route = target := by
  unfold plan at h
  split at h
  · split at h
    · cases h
    · split at h <;> simpa using h
  · simpa using h
  · simpa using h

/-- A live target needs no writes; otherwise a plan ends with the selection of its target, before which every other
multiplexer has been cleared. -/
theorem plan_cases (target : Route) (hd : t.state.Describes t.muxes l) :
    (t.state = .segmentActive target ∧ t.plan target = []) ∨
      ∃ ms : List MuxId, t.plan target = ms.map .deselect ++ [.select target] ∧
        ClearBut t.muxes target.mux (applyAll (ms.map .deselect) l) := by
  unfold plan
  split
  · rename_i active hs
    rw [hs] at hd
    obtain ⟨-, -, hclear⟩ := hd
    split
    · rename_i he
      exact Or.inl ⟨by rw [hs, he], rfl⟩
    · split
      · rename_i he
        exact Or.inr ⟨[], rfl, fun m hm hne => hclear m hm (he ▸ hne)⟩
      · refine Or.inr ⟨[active.mux], rfl, fun m hm _ => ?_⟩
        rw [applyAll_deselect]
        by_cases hm' : m = active.mux
        · simp [hm']
        · simpa [hm'] using hclear m hm hm'
  · rename_i hs
    rw [hs] at hd
    exact Or.inr ⟨[], rfl, fun m hm _ => hd m hm⟩
  · refine Or.inr ⟨_, rfl, fun m hm hne => ?_⟩
    rw [applyAll_deselect, if_pos (by simpa [hm] using hne)]

/-- Once carried out, a plan has left exactly its target connected. -/
theorem describes_plan (hd : t.state.Describes t.muxes l) (ht : target.mux ∈ t.muxes) :
    (RoutingState.segmentActive target).Describes t.muxes (applyAll (t.plan target) l) := by
  rcases plan_cases target hd with ⟨hs, hp⟩ | ⟨ms, hp, hclear⟩
  · rw [hp, ← hs]; exact hd
  · rw [hp, applyAll_append]
    refine ⟨ht, by simp [applyAll, apply, mux, connects], fun m hm hne => ?_⟩
    have : applyAll [.select target] (applyAll (ms.map .deselect) l) m = applyAll (ms.map .deselect) l m :=
      applyAll_of_ne (by simpa [mux] using fun e => hne e.symm)
    rw [this]; exact hclear m hm hne

/-- Cut anywhere, a plan has either connected nothing that was not connected before or left its target's multiplexer
alone connected. -/
theorem plan_cut (hd : t.state.Describes t.muxes l) (k : Nat) :
    (∀ m, applyAll ((t.plan target).take k) l m = none ∨ applyAll ((t.plan target).take k) l m = l m) ∨
      ClearBut t.muxes target.mux (applyAll ((t.plan target).take k) l) := by
  rcases plan_cases target hd with ⟨-, hp⟩ | ⟨ms, hp, hclear⟩
  · exact Or.inl fun m => Or.inr (by simp [hp, applyAll])
  · by_cases hk : k ≤ ms.length
    · left
      intro m
      rw [hp, List.take_append_of_le_length (by simpa using hk), ← List.map_take, applyAll_deselect]
      split
      · exact Or.inl rfl
      · exact Or.inr rfl
    · right
      intro m hm hne
      rw [hp, List.take_of_length_le (by simp; omega), applyAll_append,
        applyAll_of_ne (by simpa [mux] using fun e => hne e.symm)]
      exact hclear m hm hne

theorem atMostOne_plan_cut (hd : t.state.Describes t.muxes l) (h : AtMostOneConnected t.muxes l) (k : Nat) :
    AtMostOneConnected t.muxes (applyAll ((t.plan target).take k) l) := by
  rcases plan_cut hd k with hless | hclear
  · exact h.mono hless
  · exact hclear.atMostOne

end Tracker

/-! ## Sending writes to latches -/

section

variable {ε σ : Type}

/-- Sending the control writes that fit acts on the latches of a wire, in states that are sound: a write that succeeds
sets its latch, and one that fails leaves every other latch alone. -/
structure ActsOnLatches (send : σ → ControlWrite → Except ε Unit × σ) (fits : ControlWrite → Prop)
    (sound : σ → Prop) (latches : σ → Latches) : Prop where
  sound_send : ∀ {wire w}, fits w → sound wire → sound (send wire w).2
  of_ok : ∀ {wire w u}, fits w → sound wire → (send wire w).1 = .ok u →
    latches (send wire w).2 = w.apply (latches wire)
  of_error : ∀ {wire w e}, fits w → sound wire → (send wire w).1 = .error e → ∀ m, m ≠ w.mux →
    latches (send wire w).2 m = latches wire m

namespace ActsOnLatches

variable {send : σ → ControlWrite → Except ε Unit × σ} {fits : ControlWrite → Prop} {sound : σ → Prop}
  {latches : σ → Latches} (h : ActsOnLatches send fits sound latches)
include h

theorem sound_carryOut {ws : List ControlWrite} {state : RoutingState} {wire : σ} (hf : ∀ w ∈ ws, fits w)
    (hs : sound wire) : sound (carryOut send state wire ws).wire := by
  induction ws generalizing state wire with
  | nil => exact hs
  | cons w ws ih =>
    have hw := h.sound_send (hf w List.mem_cons_self) hs
    unfold carryOut
    split
    · rename_i he
      rw [he] at hw
      exact ih (fun v hv => hf v (List.mem_cons_of_mem _ hv)) hw
    · rename_i he
      rw [he] at hw
      exact hw

/-- A run that succeeds has the effect of its writes. -/
theorem latches_carryOut_of_ok {ws : List ControlWrite} {state : RoutingState} {wire : σ} {u : Unit}
    (hf : ∀ w ∈ ws, fits w) (hs : sound wire) (hr : (carryOut send state wire ws).result = .ok u) :
    latches (carryOut send state wire ws).wire = ControlWrite.applyAll ws (latches wire) := by
  induction ws generalizing state wire with
  | nil => rfl
  | cons w ws ih =>
    have hw := h.sound_send (hf w List.mem_cons_self) hs
    unfold carryOut at hr ⊢
    split at hr
    · rename_i he
      have hl := h.of_ok (hf w List.mem_cons_self) hs (congrArg Prod.fst he)
      rw [he] at hw hl
      show latches (carryOut send _ _ ws).wire = ControlWrite.applyAll ws (w.apply (latches wire))
      rw [ih (fun v hv => hf v (List.mem_cons_of_mem _ hv)) hw hr, hl]
    · cases hr

/-- A run touches only the latches that its writes are addressed to. -/
theorem latches_carryOut_of_ne {ws : List ControlWrite} {state : RoutingState} {wire : σ} {m : MuxId}
    (hf : ∀ w ∈ ws, fits w) (hs : sound wire) (hm : ∀ w ∈ ws, w.mux ≠ m) :
    latches (carryOut send state wire ws).wire m = latches wire m := by
  induction ws generalizing state wire with
  | nil => rfl
  | cons w ws ih =>
    have hw := h.sound_send (hf w List.mem_cons_self) hs
    have hne : m ≠ w.mux := fun e => hm w List.mem_cons_self e.symm
    unfold carryOut
    split
    · rename_i he
      have hl := h.of_ok (hf w List.mem_cons_self) hs (congrArg Prod.fst he)
      rw [he] at hw hl
      show latches (carryOut send _ _ ws).wire m = latches wire m
      rw [ih (fun v hv => hf v (List.mem_cons_of_mem _ hv)) hw fun v hv => hm v (List.mem_cons_of_mem _ hv), hl]
      simp [ControlWrite.apply, hne]
    · rename_i he
      have hl := h.of_error (hf w List.mem_cons_self) hs (congrArg Prod.fst he) m hne
      rw [he] at hl
      exact hl

end ActsOnLatches

namespace Tracker

variable {send : σ → ControlWrite → Except ε Unit × σ} {t : Tracker} {target : Route} {wire : σ}

theorem carryOut_of_route_error {e : ε} (h : (t.route send target wire).result = .error e) :
    (carryOut send t.state wire (t.plan target)).result = .error e := by
  cases hr : (carryOut send t.state wire (t.plan target)).result with
  | error e' => simpa [route, hr, Except.map] using h
  | ok u => simp [route, hr, Except.map] at h

theorem carryOut_of_route_ok {a : RouteAction} (h : (t.route send target wire).result = .ok a) :
    (carryOut send t.state wire (t.plan target)).result = .ok () := by
  cases hr : (carryOut send t.state wire (t.plan target)).result with
  | error e => simp [route, hr, Except.map] at h
  | ok u => rfl

theorem state_route_of_ok {a : RouteAction} (h : (t.route send target wire).result = .ok a) :
    (t.route send target wire).tracker.state = .segmentActive target :=
  (state_carryOut_of_ok (carryOut_of_route_ok h)).trans (foldl_after_plan t target)

theorem state_route_of_error {e : ε} (h : (t.route send target wire).result = .error e) :
    (t.route send target wire).tracker.state = .unknown :=
  state_carryOut_of_error (carryOut_of_route_error h)

/-- A request for a multiplexer of the bus leaves a belief that names no other. -/
theorem names_route (ht : target.mux ∈ t.muxes) : (t.route send target wire).tracker.state.Names t.muxes := by
  cases hr : (t.route send target wire).result with
  | error e =>
    rw [state_route_of_error hr]
    trivial
  | ok a =>
    rw [state_route_of_ok hr]
    exact ht

end Tracker

/-- A request keeps the belief right, whichever of its writes fails. -/
theorem ActsOnLatches.describes_route {send : σ → ControlWrite → Except ε Unit × σ} {fits : ControlWrite → Prop}
    {sound : σ → Prop} {latches : σ → Latches} (h : ActsOnLatches send fits sound latches) {t : Tracker}
    {target : Route} {wire : σ} (hf : ∀ w ∈ t.plan target, fits w) (hs : sound wire) (ht : target.mux ∈ t.muxes)
    (hd : t.state.Describes t.muxes (latches wire)) :
    (t.route send target wire).tracker.state.Describes t.muxes (latches (t.route send target wire).wire) := by
  cases hr : (t.route send target wire).result with
  | error e => rw [Tracker.state_route_of_error hr]; trivial
  | ok a =>
    have hl : latches (t.route send target wire).wire = ControlWrite.applyAll (t.plan target) (latches wire) :=
      h.latches_carryOut_of_ok hf hs (Tracker.carryOut_of_route_ok hr)
    rw [Tracker.state_route_of_ok hr, hl]
    exact Tracker.describes_plan hd ht

end

end I2cTopology
