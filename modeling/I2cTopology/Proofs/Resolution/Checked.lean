import I2cTopology.Topology.Checked
import I2cTopology.Proofs.Resolution.Ports

/-!
# The checks of a resolution never stop it

A resolution with its checks either does what `Document.resolve` says or refuses the document for the same reason
(`Document.checkedResolve_eq`), whatever the document. What carries this is that the tables are sound while they are
being built (`Resolver.Sound`): what refers to a row refers to one that is there, except that a device may refer to
itself.
-/

namespace I2cTopology

/-! ## Results that agree -/

/-- A result with checks is related to one without or is refused for the same reason, which is no missing row. -/
inductive Agrees {α β : Type} (R : α → β → Prop) : Except TopologyError α → Except Stop β → Prop
  | done {a : α} {b : β} : R a b → Agrees R (.ok a) (.ok b)
  | refused {e : TopologyError} : (∀ table row, e ≠ .missingRow table row) → Agrees R (.error e) (.error (.refused e))

namespace Agrees

variable {α β γ δ : Type} {R : α → β → Prop} {S : γ → δ → Prop}

theorem imp {R' : α → β → Prop} {x : Except TopologyError α} {y : Except Stop β} (h : Agrees R x y)
    (himp : ∀ a b, R a b → R' a b) : Agrees R' x y := by
  cases h with
  | done hR => exact .done (himp _ _ hR)
  | refused he => exact .refused he

/-- A result that is related is the one that there is. -/
theorem ok {x : Except TopologyError α} {y : Except Stop β} (h : Agrees R x y) :
    Agrees (fun a b => R a b ∧ x = .ok a) x y := by
  cases h with
  | done hR => exact .done ⟨hR, rfl⟩
  | refused he => exact .refused he

theorem bind {x : Except TopologyError α} {y : Except Stop β} {f : α → Except TopologyError γ}
    {g : β → Except Stop δ} (h : Agrees R x y) (hnext : ∀ a b, R a b → Agrees S (f a) (g b)) :
    Agrees S (x >>= f) (y >>= g) := by
  cases h with
  | done hR => exact hnext _ _ hR
  | refused he => exact .refused he

theorem ensure {condition : Bool} {e : TopologyError} (he : ∀ table row, e ≠ .missingRow table row) :
    Agrees (fun _ _ => condition = true) (I2cTopology.ensure condition e) (require condition e) := by
  cases condition with
  | false => exact .refused he
  | true => exact .done rfl

/-- Walks agree if their steps do, which may depend on what has been read. -/
theorem foldlM {as : List γ} (R : List γ → α → β → Prop) {f : α → γ → Except TopologyError α}
    {g : β → γ → Except Stop β} (hstep : ∀ before a after s t, as = before ++ a :: after → R before s t →
      Agrees (R (before ++ [a])) (f s a) (g t a)) {s : α} {t : β} (h : R [] s t) :
    Agrees (R as) (as.foldlM f s) (as.foldlM g t) := by
  have hall : ∀ rest before s t, as = before ++ rest → R before s t →
      Agrees (R as) (rest.foldlM f s) (rest.foldlM g t) := by
    intro rest
    induction rest with
    | nil =>
      rintro before s t hsplit hR
      rw [List.append_nil] at hsplit
      exact .done (hsplit ▸ hR)
    | cons a rest ih =>
      intro before s t hsplit hR
      rw [List.foldlM_cons, List.foldlM_cons]
      refine (hstep before a rest s t hsplit hR).bind fun s' t' hR' => ih (before ++ [a]) s' t' ?_ hR'
      rw [hsplit, List.append_assoc, List.singleton_append]
  exact hall as [] s t rfl h

theorem mapM {as : List γ} {f : γ → Except TopologyError α} {g : γ → Except Stop α}
    (h : ∀ a, Agrees Eq (f a) (g a)) : Agrees Eq (as.mapM f) (as.mapM g) := by
  induction as with
  | nil => exact .done rfl
  | cons a as ih =>
    rw [List.mapM_cons, List.mapM_cons]
    refine (h a).bind ?_
    rintro b _ rfl
    refine ih.bind ?_
    rintro bs _ rfl
    exact .done rfl

theorem anyM {as : List γ} {f : γ → Except TopologyError Bool} {g : γ → Except Stop Bool}
    (h : ∀ a ∈ as, Agrees Eq (f a) (g a)) : Agrees Eq (as.anyM f) (as.anyM g) := by
  induction as with
  | nil => exact .done rfl
  | cons a as ih =>
    rw [List.forall_mem_cons] at h
    refine h.1.bind ?_
    rintro found _ rfl
    cases found with
    | true => exact .done rfl
    | false => exact ih h.2

/-- What is found is in the list. -/
theorem findM? {as : List γ} {f : γ → Except TopologyError Bool} {g : γ → Except Stop Bool}
    (h : ∀ a ∈ as, Agrees Eq (f a) (g a)) :
    Agrees (fun found found' => found = found' ∧ ∀ a, found = some a → a ∈ as) (as.findM? f) (as.findM? g) := by
  induction as with
  | nil => exact .done ⟨rfl, nofun⟩
  | cons a as ih =>
    rw [List.forall_mem_cons] at h
    refine h.1.bind ?_
    rintro found _ rfl
    cases found with
    | true => exact .done ⟨rfl, fun b hb => Option.some.inj hb ▸ List.mem_cons_self⟩
    | false => exact (ih h.2).imp fun _ _ hfound => ⟨hfound.1, fun b hb => List.mem_cons_of_mem _ (hfound.2 b hb)⟩

theorem option_mapM {o : Option γ} {f : γ → Except TopologyError α} {g : γ → Except Stop α}
    (h : ∀ a, Agrees Eq (f a) (g a)) : Agrees Eq (o.mapM f) (o.mapM g) := by
  cases o with
  | none => exact .done rfl
  | some a =>
    refine (h a).bind ?_
    rintro b _ rfl
    exact .done rfl

end Agrees

/-- A refusal is passed on if it is for no missing row. -/
theorem agrees_orRefused {α : Type} {x : Except TopologyError α} (h : ∀ table row, x ≠ .error (.missingRow table row)) :
    Agrees Eq x (orRefused x) := by
  cases x with
  | error e => exact .refused fun table row he => h table row (congrArg Except.error he)
  | ok a => exact .done rfl

theorem rowAt_of_getElem? {α : Type} {table : RowTable} {rows : List α} {row : Nat} {a : α}
    (h : rows[row]? = some a) : rowAt table rows row = .ok a := by
  rw [rowAt, h]

/-! ## Rows that are noted -/

section

variable {α κ : Type} [DecidableEq κ]

/-- A map notes the first row with each key. -/
def OrderedMap.Notes (m : OrderedMap κ Nat) (key : α → Option κ) (rows : List α) : Prop :=
  ∀ k, m.get? k = rows.findIdx? (key · == some k)

variable {m : OrderedMap κ Nat} {key : α → Option κ} {rows : List α} {a : α} {k : κ}

theorem OrderedMap.Notes.lt (h : m.Notes key rows) {row : Nat} (hk : m.get? k = some row) : row < rows.length := by
  rw [h k] at hk
  exact (List.findIdx?_eq_some_iff_getElem.mp hk).1

/-- The row that is going to be added is noted under a new key. -/
theorem OrderedMap.Notes.insert (h : m.Notes key rows) (hnew : m.get? k = none) (ha : key a = some k) :
    (m.insert k rows.length).Notes key (rows ++ [a]) := by
  intro j
  rw [get?_insert, List.findIdx?_append, ← h j]
  by_cases hj : j = k
  · subst hj
    simp [hnew, ha]
  · simp [hj, ha, Ne.symm hj]

/-- Nothing has to be noted for a row without a key, or with one that is known. -/
theorem OrderedMap.Notes.keep (h : m.Notes key rows) (ha : ∀ k, key a = some k → m.get? k ≠ none) :
    m.Notes key (rows ++ [a]) := by
  intro j
  rw [List.findIdx?_append, ← h j]
  cases hj : m.get? j with
  | some row => rfl
  | none =>
    have hother : key a ≠ some j := fun hkey => ha j hkey hj
    simp [hother]

/-- A value that is set from the one before. -/
theorem Entries.upsert_eq {ν : Type} (f : Option ν → ν) : ∀ l : List (κ × ν),
    upsert k f l = upsert k (fun _ => f (find? k l)) l
  | [] => rfl
  | (j, v) :: l => by
    unfold upsert find?
    split
    · rfl
    · rw [upsert_eq f l]

theorem OrderedMap.upsert_eq_insert {ν : Type} (m : OrderedMap κ ν) (k : κ) (f : Option ν → ν) :
    m.upsert k f = m.insert k (f (m.get? k)) := by
  simp only [insert, upsert, get?, OrderedMap.mk.injEq]
  exact Entries.upsert_eq f m.entries

end

/-! ## Tables that are being built -/

/-- What the tables refer to is there. -/
structure Resolver.Sound (r : Resolver) : Prop where
  buses : r.buses.Notes (·.name) r.topology.ports
  slots : ∀ c ∈ r.topology.controllers, ∀ slot ∈ c.ports, slot < r.topology.ports.length
  muxes : ∀ p ∈ r.topology.ports, ∀ row ∈ p.muxes, row < r.topology.muxes.length
  identities : r.identities.Notes (fun b => some b.place) r.topology.devices
  claims : ∀ rail, ∀ claim ∈ (r.topology.rails.get? rail).getD [], claim.device < r.topology.devices.length
  total_lt : r.topology.sensors.total < sensorIdLimit
  perKind_le : ∀ kind, (r.topology.sensors.perKind.get? kind).getD 0 ≤ r.topology.sensors.total

/-- The multiplexers of a port are in the table. -/
def PortMuxes.Within (known : PortMuxes) : Prop := ∀ row ∈ known.rows, row < known.muxes.length

/-- The tables with notes are sound and hold those of a board. -/
structure Resolver.Holds (r : Resolver) (t : Topology) : Prop where
  topology_eq : r.topology = t
  sound : r.Sound

namespace Resolver

variable {r : Resolver} {t : Topology}

theorem holds_empty : ({} : Resolver).Holds {} := by
  refine ⟨rfl, fun _ => rfl, nofun, nofun, fun _ => rfl, nofun, by decide, fun kind => ?_⟩
  cases kind <;> decide

/-! ## Pins and multiplexers -/

theorem agrees_addPin (ref : PortRef) (mask : BitVec 16) (pin : UInt8) :
    Agrees Eq (I2cTopology.addPin ref mask pin) (addPin ref mask pin) := by
  refine (Agrees.ensure (by simp)).bind fun _ _ hpin => ?_
  have hlt : pin.toNat < 16 := by
    have hpin := of_decide_eq_true hpin
    rw [UInt8.lt_iff_toNat_lt] at hpin
    exact hpin
  rw [maskAt, if_pos hlt]
  exact .done rfl

theorem agrees_pinSet (ref : PortRef) (set : PinSetDecl) : Agrees Eq (set.resolve ref) (pinSet ref set) := by
  have hmask : Agrees Eq (set.pins.foldlM (I2cTopology.addPin ref) 0) (set.pins.foldlM (addPin ref) 0) := by
    refine Agrees.foldlM (fun _ => Eq) ?_ rfl
    rintro _ pin _ mask _ _ rfl
    exact agrees_addPin ref mask pin
  refine hmask.bind ?_
  rintro mask _ rfl
  exact .done rfl

theorem agrees_hasAddress {muxes : List MuxDescriptor} {rows : List Nat} (h : ∀ row ∈ rows, row < muxes.length)
    (address : UInt8) : Agrees Eq (muxHasAddress muxes rows address) (hasAddress muxes rows address) := by
  refine Agrees.anyM fun row hrow => ?_
  have hmux := List.getElem?_eq_getElem (h row hrow)
  rw [muxRow, rowAt_of_getElem? hmux, hmux]
  exact .done rfl

theorem agrees_addMux (ref : PortRef) {known : PortMuxes} (h : known.Within) (decl : MuxDecl) :
    Agrees (fun a b => a = b ∧ a.Within ∧ known.muxes.length ≤ a.muxes.length) (known.add ref decl)
      (addMux ref known decl) := by
  refine (Agrees.ensure (by simp)).bind fun _ _ _ => ?_
  refine (Agrees.ensure (by simp)).bind fun _ _ _ => ?_
  refine (agrees_hasAddress h decl.address).bind ?_
  rintro taken _ rfl
  refine (Agrees.ensure (by simp)).bind fun _ _ _ => ?_
  refine (Agrees.ensure (by simp)).bind fun _ _ _ => ?_
  refine (Agrees.option_mapM (agrees_pinSet ref)).bind ?_
  rintro nreset _ rfl
  refine .done ⟨rfl, fun row hrow => ?_, by simp⟩
  rw [List.length_append, List.length_singleton]
  rcases List.mem_append.mp hrow with hrow | hrow
  · exact Nat.lt_succ_of_lt (h row hrow)
  · rw [List.mem_singleton.mp hrow]
    exact Nat.lt_succ_self _

theorem agrees_addMuxes (ref : PortRef) (muxes : List MuxDescriptor) (decls : List MuxDecl) :
    Agrees (fun a b => a = b ∧ a.Within ∧ muxes.length ≤ a.muxes.length) (decls.foldlM (PortMuxes.add ref) ⟨muxes, []⟩)
      (decls.foldlM (addMux ref) ⟨muxes, []⟩) := by
  refine Agrees.foldlM (fun _ (a b : PortMuxes) => a = b ∧ a.Within ∧ muxes.length ≤ a.muxes.length) ?_
    ⟨rfl, nofun, Nat.le_refl _⟩
  rintro _ decl _ known _ _ ⟨rfl, hwithin, hle⟩
  exact (agrees_addMux ref hwithin decl).imp fun a b hab => ⟨hab.1, hab.2.1, Nat.le_trans hle hab.2.2⟩

/-! ## Ports and controllers -/

/-- The row of a bus is noted exactly if no port has its name. -/
theorem agrees_noteBus (h : r.Sound) (name : Option String) :
    Agrees (fun _ buses => ∀ row : BoardPort, row.name = name → buses.Notes (·.name) (r.topology.ports ++ [row]))
      (match name with
        | some name => ensure (r.topology.ports.all (·.name != some name)) (.duplicateBusName name)
        | none => .ok ())
      (r.noteBus name) := by
  cases name with
  | none => exact .done fun row hrow => h.buses.keep fun k hk => by cases hrow.symm.trans hk
  | some name =>
    have hcondition : r.topology.ports.all (·.name != some name) = (r.buses.get? name).isNone := by
      rw [h.buses name, List.findIdx?_isNone]
      simp only [decide_not, Bool.decide_eq_true]
      rfl
    simp only [noteBus, hcondition]
    rw [← bind_pure (ensure _ _)]
    refine (Agrees.ensure (by simp)).bind fun _ _ hnew => .done fun row hrow => ?_
    exact h.buses.insert (Option.isNone_iff_eq_none.mp hnew) hrow

theorem agrees_addPort {controller : Controller} {count : Nat} {s : Resolver × List Nat} (h : s.1.Holds t)
    (entry : (String × PortDecl) × Nat) :
    Agrees (fun u v => v.1.Holds u ∧ v.2 = s.2 ++ [t.ports.length] ∧ u.ports.length = t.ports.length + 1)
      (t.addPort controller count entry) (addPort controller count s entry) := by
  obtain ⟨⟨key, name, description, pins, muxes⟩, position⟩ := entry
  obtain ⟨r, slots⟩ := s
  obtain ⟨rfl, hsound⟩ := h
  have hstep : r.topology.addPort controller count ((⟨key, ⟨name, description, pins, muxes⟩⟩), position) =
      ensure (position < 256) (.tooMany .portsOfController count) >>= fun _ =>
      (match name with
        | some name => ensure (r.topology.ports.all (·.name != some name)) (.duplicateBusName name)
        | none => .ok ()) >>= fun _ =>
      pins.mapM (·.resolve ⟨controller, ⟨UInt8.ofNat position⟩, key⟩) >>= fun pins =>
      muxes.foldlM (PortMuxes.add ⟨controller, ⟨UInt8.ofNat position⟩, key⟩) ⟨r.topology.muxes, []⟩ >>= fun known =>
      .ok { r.topology with
        ports := r.topology.ports ++ [⟨controller, ⟨UInt8.ofNat position⟩, key, name, description, pins, known.rows⟩]
        muxes := known.muxes } := by
    cases name <;> rfl
  rw [hstep]
  refine (Agrees.ensure (by simp)).bind fun _ _ _ => ?_
  refine (agrees_noteBus hsound name).bind fun _ buses hbuses => ?_
  refine (Agrees.mapM (agrees_pinSet _)).bind ?_
  rintro pins _ rfl
  refine (agrees_addMuxes _ r.topology.muxes muxes).bind ?_
  rintro known _ ⟨rfl, hwithin, hle⟩
  refine .done ⟨⟨rfl, hbuses _ rfl, fun c hc slot hslot => ?_, fun p hp row hrow => ?_, hsound.identities,
    hsound.claims, hsound.total_lt, hsound.perKind_le⟩, rfl, by simp⟩
  · rw [List.length_append]
    exact Nat.lt_add_right _ (hsound.slots c hc slot hslot)
  · rcases List.mem_append.mp hp with hp | hp
    · exact Nat.lt_of_lt_of_le (hsound.muxes p hp row hrow) hle
    · obtain rfl := List.mem_singleton.mp hp
      exact hwithin row hrow

/-- The ports of a controller have been added to the tables of `r` up to some entry, one row after the other. -/
structure AddedPorts (r : Resolver) (entries : List ((String × PortDecl) × Nat)) (t : Topology)
    (s : Resolver × List Nat) : Prop where
  holds : s.1.Holds t
  slots_eq : s.2 = List.range' r.topology.ports.length entries.length
  length_ports : t.ports.length = r.topology.ports.length + entries.length

theorem AddedPorts.add {entries : List ((String × PortDecl) × Nat)} {s s' : Resolver × List Nat} {u : Topology}
    {entry : (String × PortDecl) × Nat} (h : AddedPorts r entries t s) (hholds : s'.1.Holds u)
    (hslots : s'.2 = s.2 ++ [t.ports.length]) (hlength : u.ports.length = t.ports.length + 1) :
    AddedPorts r (entries ++ [entry]) u s' := by
  refine ⟨hholds, ?_, ?_⟩
  · rw [hslots, h.slots_eq, h.length_ports, List.length_append, List.length_singleton, List.range'_1_concat]
  · rw [hlength, h.length_ports, List.length_append, List.length_singleton, Nat.add_assoc]

theorem agrees_addController (h : r.Holds t) (decl : ControllerDecl) :
    Agrees (fun u s => s.Holds u) (t.addController decl) (r.addController decl) := by
  obtain ⟨rfl, hsound⟩ := h
  refine (Agrees.ensure (by simp)).bind fun _ _ _ => ?_
  have hports : Agrees (fun u v => AddedPorts r decl.ports.entries.zipIdx u v)
      (decl.ports.entries.zipIdx.foldlM (Topology.addPort ⟨decl.controller⟩ decl.ports.size) r.topology)
      (decl.ports.entries.zipIdx.foldlM (addPort ⟨decl.controller⟩ decl.ports.size) (r, [])) := by
    refine Agrees.foldlM (AddedPorts r) ?_ ⟨⟨rfl, hsound⟩, rfl, rfl⟩
    intro before entry _ u v _ hadded
    exact (agrees_addPort hadded.holds entry).imp fun u' v' h => hadded.add h.1 h.2.1 h.2.2
  refine hports.bind ?_
  rintro u ⟨s, slots⟩ ⟨⟨rfl, hs⟩, rfl, hlength⟩
  rw [List.length_zipIdx] at hlength ⊢
  refine .done ⟨rfl, hs.buses, fun c hc slot hslot => ?_, hs.muxes, hs.identities, hs.claims, hs.total_lt,
    hs.perKind_le⟩
  rcases List.mem_append.mp hc with hc | hc
  · exact hs.slots c hc slot hslot
  · obtain rfl := List.mem_singleton.mp hc
    show slot < s.topology.ports.length
    rw [hlength]
    exact (List.mem_range'_1.mp hslot).2

/-! ## Places of devices -/

/-- The port of a device is found alike, and it is in the table. -/
theorem agrees_slotOf (h : r.Sound) (d : DeviceDecl) :
    Agrees (fun a b => a = b ∧ a < r.topology.ports.length) (r.topology.slotOf d) (r.slotOf d) := by
  unfold Topology.slotOf slotOf
  cases d.bus with
  | some bus =>
    cases d.controller with
    | some number => exact .refused (by simp)
    | none =>
      refine (Agrees.ensure (by simp)).bind fun _ _ _ => ?_
      have hfound : r.topology.ports.findIdx? (·.name == some bus) = r.buses.get? bus := (h.buses bus).symm
      rw [hfound]
      cases hbus : r.buses.get? bus with
      | none => exact .refused (by simp)
      | some slot => exact .done ⟨rfl, h.buses.lt hbus⟩
  | none =>
    cases d.controller with
    | none => exact .refused (by simp)
    | some number =>
      dsimp only
      cases hcontroller : r.topology.controllers.find? (·.controller == ⟨number⟩) with
      | none => exact .refused (by simp)
      | some c =>
        have hslots := h.slots c (List.mem_of_find?_eq_some hcontroller)
        cases d.port with
        | some key =>
          have hsearch : Agrees (fun found found' => found = found' ∧ ∀ slot, found = some slot → slot ∈ c.ports)
              (c.ports.findM? fun slot => (r.topology.port slot).map (·.key == key))
              (c.ports.findM? fun slot => (rowAt .ports r.topology.ports slot).map (·.key == key)) := by
            refine Agrees.findM? fun slot hslot => ?_
            have hport := List.getElem?_eq_getElem (hslots slot hslot)
            rw [Topology.port, rowAt_of_getElem? hport, hport]
            exact .done rfl
          refine hsearch.bind ?_
          rintro found _ ⟨rfl, hmem⟩
          cases found with
          | none => exact .refused (by simp)
          | some slot => exact .done ⟨rfl, hslots slot (hmem slot rfl)⟩
        | none =>
          dsimp only
          generalize c.ports = slots at hslots ⊢
          match slots, hslots with
          | [], _ => exact .refused (by simp)
          | [slot], hslots => exact .done ⟨rfl, hslots slot (List.mem_singleton_self slot)⟩
          | _ :: _ :: _, _ => exact .refused (by simp)

theorem agrees_routeOf (h : r.Sound) {slot : Nat} {p : BoardPort} (hp : r.topology.ports[slot]? = some p)
    (d : DeviceDecl) : Agrees Eq (r.topology.routeOf p d) (routeOf r.topology slot d) := by
  unfold Topology.routeOf routeOf
  cases d.mux with
  | none =>
    cases d.segment with
    | none => exact .done rfl
    | some segment => exact .refused (by simp)
  | some number =>
    cases d.segment with
    | none => exact .refused (by simp)
    | some segment =>
      rw [rowAt_of_getElem? hp]
      dsimp only [bind, Except.bind]
      cases hmux : Topology.muxOf p number with
      | none => exact .refused (by simp)
      | some row =>
        have hmem : row ∈ p.muxes := by
          unfold Topology.muxOf at hmux
          split at hmux
          · cases hmux
          · exact List.mem_of_getElem? hmux
        have hrow := List.getElem?_eq_getElem (h.muxes p (List.mem_of_getElem? hp) row hmem)
        simp only [muxRow, rowAt, hrow]
        refine (Agrees.ensure (by simp)).bind fun _ _ _ => ?_
        exact .done rfl

/-- A place is free alike, and noted for the device that is going to be added. -/
theorem agrees_notePlace (h : r.Sound) (d : DeviceDecl) (place : DevicePlace) :
    Agrees (fun _ identities => ∀ b : BoardDevice, b.place = place →
        identities.Notes (fun b => some b.place) (r.topology.devices ++ [b]))
      (r.topology.checkPlace d place) (r.notePlace r.topology.devices.length d place) := by
  have hnoted : r.identities.get? place = r.topology.devices.findIdx? (·.place == place) := h.identities place
  unfold Topology.checkPlace notePlace
  rw [List.find?_eq_bind_findIdx?_getElem?, ← hnoted]
  cases hknown : r.identities.get? place with
  | none => exact .done fun b hb => h.identities.insert hknown (congrArg some hb)
  | some row =>
    obtain ⟨other, hother⟩ : ∃ other, r.topology.devices[row]? = some other :=
      ⟨_, List.getElem?_eq_getElem (h.identities.lt hknown)⟩
    rw [Option.bind_some, hother]
    cases d.isAlias with
    | false =>
      simp only [rowAt_of_getElem? hother]
      exact .refused (by simp)
    | true =>
      refine .done fun b hb => h.identities.keep fun k hk => ?_
      obtain rfl : place = k := hb.symm.trans (Option.some.inj hk)
      rw [hknown]
      exact Option.some_ne_none row

/-- A device that is placed is going to be the next row. -/
theorem agrees_placeDevice (h : r.Sound) (d : DeviceDecl) :
    Agrees (fun b v => v.1 = b ∧ v.2.Notes (fun b => some b.place) (r.topology.devices ++ [b]))
      (r.topology.placeDevice d) (r.placeDevice r.topology.devices.length d) := by
  unfold Topology.placeDevice placeDevice
  refine (agrees_slotOf h d).bind ?_
  rintro slot _ ⟨rfl, hslot⟩
  obtain ⟨p, hp⟩ : ∃ p, r.topology.ports[slot]? = some p := ⟨_, List.getElem?_eq_getElem hslot⟩
  have hport : r.topology.port slot = .ok p := by rw [Topology.port, hp]
  rw [hport]
  refine (agrees_routeOf h hp d).bind ?_
  rintro route _ rfl
  rw [rowAt_of_getElem? hp]
  refine (Agrees.ensure (by simp)).bind fun _ _ _ => ?_
  refine (agrees_hasAddress (h.muxes p (List.mem_of_getElem? hp)) d.address).bind ?_
  rintro taken _ rfl
  refine (Agrees.ensure (by simp)).bind fun _ _ _ => ?_
  refine (agrees_notePlace h d _).bind fun _ identities hidentities => ?_
  exact .done ⟨rfl, hidentities _ rfl⟩

/-! ## Sensors -/

/-- The ids in use fit 32 bits, and those of one kind are among them. -/
def IdsSound (table : SensorTable) : Prop :=
  table.total < sensorIdLimit ∧ ∀ kind, (table.perKind.get? kind).getD 0 ≤ table.total

theorem agrees_takeIds (sensors : SensorDecl) {s : SensorRuns} (h : IdsSound s.table) (kind : SensorKind) :
    Agrees (fun a b => a = b ∧ IdsSound a.table) (s.take sensors kind) (takeIds sensors s kind) := by
  unfold SensorRuns.take takeIds
  dsimp only
  split
  · exact .done ⟨rfl, h⟩
  · refine (Agrees.ensure (by simp)).bind fun _ _ hlt => ?_
    have hlt := of_decide_eq_true hlt
    have hle := h.2 kind
    have hfits : (s.table.perKind.get? kind).getD 0 + (sensors.count kind).toNat < sensorIdLimit := by omega
    rw [wordSum, if_pos hfits, OrderedMap.upsert_eq_insert]
    refine .done ⟨rfl, hlt, fun other => ?_⟩
    simp only [OrderedMap.get?_insert]
    split
    · rw [Option.getD_some]
      omega
    · exact Nat.le_add_right_of_le (h.2 other)

theorem agrees_addSensors {table : SensorTable} (h : IdsSound table) (row : Nat) (sensors : SensorDecl) :
    Agrees (fun a b => a = b ∧ IdsSound a) (table.add row sensors) (addSensors table row sensors) := by
  have hruns : Agrees (fun (a b : SensorRuns) => a = b ∧ IdsSound a.table)
      (SensorKind.all.foldlM (SensorRuns.take sensors) ⟨[], table⟩)
      (SensorKind.all.foldlM (takeIds sensors) ⟨[], table⟩) := by
    refine Agrees.foldlM (fun _ (a b : SensorRuns) => a = b ∧ IdsSound a.table) ?_ ⟨rfl, h⟩
    rintro _ kind _ s _ - ⟨rfl, hs⟩
    exact agrees_takeIds sensors hs kind
  refine hruns.bind ?_
  rintro runs _ ⟨rfl, hs⟩
  exact .done ⟨rfl, hs⟩

/-! ## Rails -/

/-- Claims to rails are by devices up to the one in `row`. -/
def ClaimsUpTo (rails : OrderedMap String (List RailClaim)) (row : Nat) : Prop :=
  ∀ rail, ∀ claim ∈ (rails.get? rail).getD [], claim.device ≤ row

theorem agrees_excludes (t : Topology) (kind : String) (multiphase : Bool) {claims : List RailClaim}
    (h : ∀ claim ∈ claims, claim.device ≤ t.devices.length) :
    Agrees Eq (claims.anyM (t.excludes t.devices.length kind multiphase))
      (claims.anyM (excludes t.devices t.devices.length kind multiphase)) := by
  refine Agrees.anyM fun claim hclaim => ?_
  unfold Topology.excludes excludes
  by_cases hself : claim.device = t.devices.length
  · rw [if_pos hself, if_pos hself]
    exact .done rfl
  · have hother := List.getElem?_eq_getElem (Nat.lt_of_le_of_ne (h claim hclaim) hself)
    rw [if_neg hself, if_neg hself, Topology.device, rowAt_of_getElem? hother, hother]
    exact .done rfl

theorem agrees_claimRail (t : Topology) (kind : String) (power : PowerDecl) {rails : OrderedMap String (List RailClaim)}
    (h : ClaimsUpTo rails t.devices.length) (entry : String × Nat) :
    Agrees (fun a b => a = b ∧ ClaimsUpTo a t.devices.length) (t.claimRail t.devices.length kind power rails entry)
      (claimRail t.devices t.devices.length kind power rails entry) := by
  obtain ⟨rail, index⟩ := entry
  unfold Topology.claimRail claimRail
  dsimp only
  split
  · exact .done ⟨rfl, h⟩
  · refine (Agrees.ensure (by simp)).bind fun _ _ _ => ?_
    refine (agrees_excludes t kind power.multiphase (h rail)).bind ?_
    rintro excluded _ rfl
    refine (Agrees.ensure (by simp)).bind fun _ _ _ => ?_
    refine .done ⟨rfl, fun other claim hclaim => ?_⟩
    rw [OrderedMap.get?_upsert] at hclaim
    split at hclaim
    · rcases List.mem_append.mp hclaim with hclaim | hclaim
      · exact h rail claim hclaim
      · exact Nat.le_of_eq (congrArg RailClaim.device (List.mem_singleton.mp hclaim))
    · exact h other claim hclaim

theorem agrees_claimRails (t : Topology) (d : DeviceDecl) (power : PowerDecl)
    (h : ClaimsUpTo t.rails t.devices.length) :
    Agrees (fun a b => a = b ∧ ClaimsUpTo a t.devices.length) (t.claimRails t.devices.length d power)
      (claimRails t t.devices.length d power) := by
  have hrails : Agrees (fun a b => a = b ∧ ClaimsUpTo a t.devices.length)
      (power.rails.zipIdx.foldlM (t.claimRail t.devices.length d.device power) t.rails)
      (power.rails.zipIdx.foldlM (claimRail t.devices t.devices.length d.device power) t.rails) := by
    refine Agrees.foldlM (fun _ (a b : OrderedMap String (List RailClaim)) => a = b ∧ ClaimsUpTo a t.devices.length) ?_
      ⟨rfl, h⟩
    rintro _ entry _ rails _ - ⟨rfl, hrails⟩
    exact agrees_claimRail t d.device power hrails entry
  obtain ⟨rails, phases, pmbus, multiphase⟩ := power
  cases phases with
  | none => exact hrails
  | some phases => exact (Agrees.ensure (by simp)).bind fun _ _ _ => hrails

/-! ## Devices -/

/-- A group refuses nothing but an identity. -/
theorem add_ne_missingRow (g : DeviceGroup) (row : Nat) (d : BoardDevice) (table : RowTable) (missing : Nat) :
    g.add row d ≠ .error (.missingRow table missing) := by
  have hidentify : ∀ (identity : Identity) (identifiers : List String) (known : OrderedMap String Nat),
      identifiers.foldlM (identify d.kind identity row) known ≠ .error (.missingRow table missing) := by
    intro identity identifiers
    induction identifiers with
    | nil => exact nofun
    | cons identifier identifiers ih =>
      intro known
      rw [List.foldlM_cons, identify]
      cases (known.get? identifier).isNone with
      | false => exact nofun
      | true => exact ih _
  unfold DeviceGroup.add
  cases hnames : d.names.foldlM (identify d.kind .name row) g.byName with
  | error e =>
    intro he
    exact hidentify .name d.names g.byName (hnames.trans (congrArg Except.error (Except.error.inj he)))
  | ok byName =>
    cases hrefdes : d.refdes.toList.foldlM (identify d.kind .refdes row) g.byRefdes with
    | error e =>
      intro he
      exact hidentify .refdes d.refdes.toList g.byRefdes (hrefdes.trans (congrArg Except.error (Except.error.inj he)))
    | ok byRefdes => exact nofun

/-- A device is added to sound tables with its notes, ids and claims. -/
theorem Sound.withDevice (h : r.Sound) {b : BoardDevice} {identities : OrderedMap DevicePlace Nat}
    (hidentities : identities.Notes (fun b => some b.place) (r.topology.devices ++ [b]))
    (groups : OrderedMap String DeviceGroup) {sensors : SensorTable} (hsensors : IdsSound sensors)
    {rails : OrderedMap String (List RailClaim)} (hrails : ClaimsUpTo rails r.topology.devices.length) :
    Resolver.Sound { r with
      topology := { r.topology with devices := r.topology.devices ++ [b], groups, sensors, rails }
      identities } := by
  refine ⟨h.buses, h.slots, h.muxes, hidentities, fun rail claim hclaim => ?_, hsensors.1, hsensors.2⟩
  rw [List.length_append]
  exact Nat.lt_succ_of_le (hrails rail claim hclaim)

theorem agrees_addDevice (h : r.Holds t) (d : DeviceDecl) :
    Agrees (fun u s => s.Holds u ∧ u.devices.length = t.devices.length + 1) (t.addDevice d)
      (r.addDevice (d, t.devices.length)) := by
  obtain ⟨rfl, hsound⟩ := h
  have hclaims : ClaimsUpTo r.topology.rails r.topology.devices.length :=
    fun rail claim hclaim => Nat.le_of_lt (hsound.claims rail claim hclaim)
  refine (agrees_placeDevice hsound d).bind ?_
  rintro _ ⟨b, identities⟩ ⟨rfl, hidentities⟩
  refine (agrees_orRefused (add_ne_missingRow _ _ b)).bind ?_
  rintro group _ rfl
  refine (agrees_addSensors ⟨hsound.total_lt, hsound.perKind_le⟩ _ d.sensors).bind ?_
  rintro sensors _ ⟨rfl, hsensors⟩
  have hlength : (r.topology.devices ++ [b]).length = r.topology.devices.length + 1 := List.length_append
  cases d.power with
  | none => exact .done ⟨⟨rfl, hsound.withDevice hidentities _ hsensors hclaims⟩, hlength⟩
  | some power =>
    refine (agrees_claimRails r.topology d power hclaims).bind ?_
    rintro rails _ ⟨rfl, hrails⟩
    exact .done ⟨⟨rfl, hsound.withDevice hidentities _ hsensors hrails⟩, hlength⟩

end Resolver

namespace Document

/-- Each declaration in turn finds sound tables and leaves sound ones. -/
theorem agrees_checkedResolve (d : Document) : Agrees Eq d.resolve d.checkedResolve := by
  have hcontrollers : Agrees (fun t r => r.Holds t) (d.controllers.foldlM Topology.addController {})
      (d.controllers.foldlM Resolver.addController {}) := by
    refine Agrees.foldlM (fun _ t (r : Resolver) => r.Holds t) ?_ Resolver.holds_empty
    intro _ c _ t r _ hholds
    exact Resolver.agrees_addController hholds c
  refine hcontrollers.ok.bind ?_
  rintro t r ⟨hholds, hok⟩
  obtain ⟨-, rfl⟩ := foldlM_addController_eq_ok_iff.mp hok
  have hzip : d.devices.foldlM Topology.addDevice (.ofControllers d.controllers) =
      d.devices.zipIdx.foldlM (fun t e => t.addDevice e.1) (.ofControllers d.controllers) := by
    conv => lhs; rw [← List.zipIdx_map_fst 0 d.devices, List.foldlM_map]
  have hdevices : Agrees (fun (u : Topology) s => s.Holds u ∧ u.devices.length = d.devices.zipIdx.length)
      (d.devices.zipIdx.foldlM (fun t e => t.addDevice e.1) (.ofControllers d.controllers))
      (d.devices.zipIdx.foldlM Resolver.addDevice r) := by
    refine Agrees.foldlM (fun before (u : Topology) (s : Resolver) => s.Holds u ∧ u.devices.length = before.length) ?_
      ⟨hholds, rfl⟩
    rintro before ⟨e, row⟩ after u s hsplit ⟨hu, hlength⟩
    -- the position of a device in the document is the row in which it goes
    have hrow : row = before.length := by
      have hentry : d.devices.zipIdx[before.length]? = some (e, row) := by
        rw [hsplit, List.getElem?_append_right (Nat.le_refl _), Nat.sub_self]
        rfl
      rw [List.getElem?_zipIdx] at hentry
      obtain ⟨_, -, hentry⟩ := Option.map_eq_some_iff.mp hentry
      exact (congrArg Prod.snd hentry).symm.trans (Nat.zero_add _)
    rw [hrow, ← hlength]
    refine (Resolver.agrees_addDevice hu e).imp fun u' s' hu' => ⟨hu'.1, ?_⟩
    rw [hu'.2, hlength, List.length_append, List.length_singleton]
  rw [hzip, ← bind_pure (d.devices.zipIdx.foldlM _ _)]
  exact hdevices.bind fun u s hu => .done hu.1.topology_eq.symm

/-- **No check stops a resolution.** With its checks, the resolution of any document has the outcome that it has
without, and is refused for no missing row. -/
theorem checkedResolve_eq (d : Document) :
    d.checkedResolve = orRefused d.resolve ∧ ∀ table row, d.resolve ≠ .error (.missingRow table row) := by
  have hagrees := d.agrees_checkedResolve
  generalize d.resolve = x at hagrees ⊢
  generalize d.checkedResolve = y at hagrees ⊢
  cases hagrees with
  | done h => exact ⟨congrArg Except.ok h.symm, nofun⟩
  | refused he => exact ⟨rfl, fun table row h => he table row (Except.error.inj h)⟩

end Document

end I2cTopology
