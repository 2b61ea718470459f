import I2cTopology.Artifact.Sections
import I2cTopology.Proofs.Resolution.Walk

/-!
# What an artifact demands of a board

Making an artifact can fail in three ways only: there has to be one target controller, the ports of a controller have
to be countable, and every item has to get an identifier that no other item of its generated module has. `Demand` lists
these, and `Demand.checkAll` goes through demands in order. An artifact is made exactly if the demands of its parts are
met, and the first one that is not met is its error (`BusSection.meets_ofTopology`, `AccessorSection.meets_ofTopology`,
`SensorSection.meets_ofTopology`).
-/

namespace I2cTopology

/-! ## Items and their identifiers -/

/-- An item of a document that gets an identifier of its own in the generated source. -/
inductive Item where
  | port (controller : Controller) (key : String)
  | kind (kind : String)
  | name (kind name : String)
  | refdes (kind refdes : String)
  /-- The devices of a kind on a bus. -/
  | bus (kind bus : String)
  | rail (rail : String)
  /-- The sensors of a kind. -/
  | sensors (kind : String)
  | sensorName (kind name : String)
deriving DecidableEq

/-- A generated module with identifiers in it. -/
inductive Home where
  | ports
  | kinds
  | names (kind : String)
  | refdes (kind : String)
  | buses (kind : String)
  | rails
  | sensors
  | sensorNames (kind : String)
deriving DecidableEq

namespace Item

/-- The module in which the identifier of an item has to be its own. -/
def home : Item → Home
  | port _ _ => .ports
  | kind _ => .kinds
  | name k _ => .names k
  | refdes k _ => .refdes k
  | bus k _ => .buses k
  | rail _ => .rails
  | sensors _ => .sensors
  | sensorName k _ => .sensorNames k

/-- The identifier that an item gets. -/
def identifier : Item → String
  | port c key => s!"i2c{c.number}_{Identifier.snake key}"
  | kind k => Identifier.snake k
  | name _ n => Identifier.snake n
  | refdes _ r => Identifier.snake r
  | bus _ b => Identifier.snake b
  | rail r => Identifier.snake r
  | sensors k => Identifier.snake k
  | sensorName _ n => Identifier.upper n

/-- How an item is called in an error. -/
def label : Item → String
  | port c key => s!"port {key} of {c.label}"
  | kind k => s!"device kind {k}"
  | name k n => s!"{k} name {n}"
  | refdes k r => s!"{k} refdes {r}"
  | bus k b => s!"{k} on bus {b}"
  | rail r => s!"rail {r}"
  | sensors k => s!"{k} sensors"
  | sensorName k n => s!"{k} name {n}"

/-- Two items would have the same identifier in the same module. -/
def Clashes (a b : Item) : Prop := a.home = b.home ∧ a.identifier = b.identifier

instance (a b : Item) : Decidable (a.Clashes b) := inferInstanceAs (Decidable (_ ∧ _))

end Item

/-! ## Demands -/

/-- What has to hold for an artifact to be made. -/
inductive Demand where
  /-- There is one target controller. -/
  | single (found : Nat)
  /-- The number of ports of a controller fits a byte. -/
  | counted (controller : Controller) (ports : Nat)
  /-- The item gets an identifier of its own. -/
  | named (item : Item)
deriving DecidableEq

namespace Demand

/-- The items that have got their identifiers. -/
def items (demands : List Demand) : List Item :=
  demands.filterMap fun
    | named a => some a
    | _ => none

/-- Checks a demand after others. -/
def check (before : List Demand) : Demand → Except EmitError Unit
  | single found => ensure (found == 1) (.targetCount found)
  | counted controller ports => ensure (ports < 256) (.portCount controller)
  | named a =>
    match (items before).find? (Item.Clashes a ·) with
    | some b => .error (.nameClash a.label b.label a.identifier)
    | none => .ok ()

/-- Checks demands one after the other. -/
def checkAll : List Demand → List Demand → Except EmitError Unit
  | _, [] => .ok ()
  | before, d :: ds => do
    d.check before
    checkAll (before ++ [d]) ds

@[simp] theorem items_append (ds es : List Demand) : items (ds ++ es) = items ds ++ items es := List.filterMap_append

@[simp] theorem items_named (as : List Item) : items (as.map named) = as := by
  unfold items
  rw [List.filterMap_map]
  exact List.filterMap_some

theorem mem_items {ds : List Demand} {a : Item} : a ∈ items ds ↔ named a ∈ ds := by
  unfold items
  rw [List.mem_filterMap]
  constructor
  · rintro ⟨d, hd, ha⟩
    cases d with
    | named b =>
      obtain rfl := Option.some.inj ha
      exact hd
    | single _ => cases ha
    | counted _ _ => cases ha
  · exact fun h => ⟨named a, h, rfl⟩

/-- None of the items belongs to a module. -/
def Avoids (ds : List Demand) (home : Home) : Prop := ∀ a ∈ items ds, a.home ≠ home

theorem Avoids.append {ds es : List Demand} {home : Home} (h : Avoids ds home) (h' : Avoids es home) :
    Avoids (ds ++ es) home := by
  intro a ha
  rw [items_append, List.mem_append] at ha
  exact ha.elim (h a) (h' a)

theorem avoids_named {as : List Item} {home : Home} (h : ∀ a ∈ as, a.home ≠ home) : Avoids (as.map named) home := by
  intro a ha
  rw [items_named] at ha
  exact h a ha

theorem avoids_flatMap {α : Type} {itemsOf : α → List Item} {as : List α} {home : Home}
    (h : ∀ a ∈ as, ∀ b ∈ itemsOf a, b.home ≠ home) : Avoids (as.flatMap fun a => (itemsOf a).map named) home := by
  rw [← List.map_flatMap]
  refine avoids_named fun b hb => ?_
  obtain ⟨a, ha, hmem⟩ := List.mem_flatMap.mp hb
  exact h a ha b hmem

theorem checkAll_append (before ds es : List Demand) :
    checkAll before (ds ++ es) = checkAll before ds >>= fun _ => checkAll (before ++ ds) es := by
  induction ds generalizing before with
  | nil =>
    rw [List.nil_append, List.append_nil]
    rfl
  | cons d ds ih =>
    have hcons : ∀ fs, checkAll before (d :: fs) = d.check before >>= fun _ => checkAll (before ++ [d]) fs :=
      fun _ => rfl
    rw [List.cons_append, hcons, hcons, ih, List.append_assoc, List.singleton_append]
    cases d.check before <;> rfl

/-! ## Results that meet demands -/

variable {α β : Type}

/-- A result that is there, and has `post`, if the demands are met, and is otherwise the first one that is not. -/
def Meets (before ds : List Demand) (post : α → Prop) : Except EmitError α → Prop
  | .ok value => checkAll before ds = .ok () ∧ post value
  | .error e => checkAll before ds = .error e

variable {before ds es : List Demand} {post : α → Prop} {post' : β → Prop}

theorem meets_ok (before : List Demand) {value : α} (h : post value) : Meets before [] post (.ok value) := ⟨rfl, h⟩

theorem Meets.exists_ok_iff {x : Except EmitError α} (h : Meets before ds post x) :
    (∃ value, x = .ok value) ↔ checkAll before ds = .ok () := by
  cases x with
  | error e =>
    have herror : checkAll before ds = .error e := h
    simp [herror]
  | ok value => exact iff_of_true ⟨value, rfl⟩ h.1

theorem Meets.eq_error_iff {x : Except EmitError α} (h : Meets before ds post x) {e : EmitError} :
    x = .error e ↔ checkAll before ds = .error e := by
  cases x with
  | error e' =>
    have herror : checkAll before ds = .error e' := h
    rw [herror]
    simp
  | ok value =>
    rw [h.1]
    simp

theorem Meets.bind {x : Except EmitError α} {f : α → Except EmitError β} (h : Meets before ds post x)
    (hnext : ∀ value, post value → Meets (before ++ ds) es post' (f value)) :
    Meets before (ds ++ es) post' (x >>= f) := by
  have hsplit := checkAll_append before ds es
  cases x with
  | error e =>
    have herror : checkAll before ds = .error e := h
    rw [herror] at hsplit
    exact hsplit
  | ok value =>
    obtain ⟨hok, hpost⟩ := h
    rw [hok] at hsplit
    have hrest := hnext value hpost
    show Meets before (ds ++ es) post' (f value)
    cases hf : f value with
    | error e =>
      rw [hf] at hrest
      exact hsplit.trans hrest
    | ok result =>
      rw [hf] at hrest
      exact ⟨hsplit.trans hrest.1, hrest.2⟩

theorem Meets.bind_cons {d : Demand} {x : Except EmitError α} {f : α → Except EmitError β} (h : Meets before [d] post x)
    (hnext : ∀ value, post value → Meets (before ++ [d]) es post' (f value)) :
    Meets before (d :: es) post' (x >>= f) :=
  h.bind hnext

/-- What succeeds with any result demands nothing more. -/
theorem Meets.bind_ok {x : Except EmitError α} {f : α → Except EmitError β} (h : Meets before ds post x)
    (hf : ∀ value, post value → ∃ result, f value = .ok result ∧ post' result) :
    Meets before ds post' (x >>= f) := by
  rw [← List.append_nil ds]
  refine h.bind fun value hpost => ?_
  obtain ⟨result, hresult, hpost'⟩ := hf value hpost
  rw [hresult]
  exact meets_ok (before ++ ds) hpost'

theorem Meets.done {x : Except EmitError α} (h : Meets before ds post x) {f : α → β}
    (hf : ∀ value, post value → post' (f value)) : Meets before ds post' (x >>= fun value => .ok (f value)) :=
  h.bind_ok fun value hpost => ⟨f value, rfl, hf value hpost⟩

/-- A demand that is checked by itself. -/
theorem meets_ensure {condition : Bool} {e : EmitError} {d : Demand} (h : d.check before = ensure condition e) :
    Meets before [d] (fun _ => True) (ensure condition e) := by
  have hone : checkAll before [d] = ensure condition e := by
    show (d.check before >>= fun _ => .ok ()) = _
    rw [h]
    cases condition <;> rfl
  cases condition with
  | false => exact hone
  | true => exact ⟨hone, trivial⟩

end Demand

open Demand

/-! ## Scopes -/

namespace Scope

variable {before : List Demand} {s : Scope} {home : Home}

/-- The identifiers in use are those of the items of one module. -/
def Holds (s : Scope) (before : List Demand) (home : Home) : Prop :=
  s.owners.entries = ((items before).filter (·.home = home)).map fun a => (a.identifier, a.label)

theorem holds_empty (h : Avoids before home) : ({} : Scope).Holds before home := by
  have hnone : (items before).filter (·.home = home) = [] :=
    List.filter_eq_nil_iff.mpr fun a ha => by simpa using h a ha
  unfold Holds
  rw [hnone]
  rfl

/-- Items of other modules do not matter. -/
theorem Holds.append (h : s.Holds before home) {ds : List Demand} (hds : Avoids ds home) :
    s.Holds (before ++ ds) home := by
  have hnone : (items ds).filter (·.home = home) = [] :=
    List.filter_eq_nil_iff.mpr fun a ha => by simpa using hds a ha
  unfold Holds
  rw [items_append, List.filter_append, hnone, List.append_nil]
  exact h

theorem find?_labelled (identifier : String) (as : List Item) :
    Entries.find? identifier (as.map fun a => (a.identifier, a.label)) =
      (as.find? (·.identifier = identifier)).map (·.label) := by
  induction as with
  | nil => rfl
  | cons a as ih =>
    rw [List.map_cons, Entries.find?, List.find?_cons]
    by_cases h : a.identifier = identifier
    · simp [h]
    · simp [h, ih]

/-- An identifier in use is that of an item in the module that the asking item clashes with. -/
theorem Holds.get? {a : Item} (h : s.Holds before a.home) :
    s.owners.get? a.identifier = ((items before).find? (Item.Clashes a ·)).map (·.label) := by
  unfold OrderedMap.get?
  rw [h, find?_labelled, List.find?_filter]
  congr 2
  funext b
  rw [Bool.eq_iff_iff]
  simp only [decide_eq_true_eq]
  exact and_congr eq_comm eq_comm

theorem meets_claim {a : Item} (h : s.Holds before a.home) :
    Meets before [named a] (fun next => next.Holds (before ++ [named a]) a.home) (s.claim a.identifier a.label) := by
  have hone : checkAll before [named a] = (named a).check before >>= fun _ => .ok () := rfl
  unfold claim
  rw [h.get?]
  cases hfind : (items before).find? (Item.Clashes a ·) with
  | some b =>
    show checkAll before [named a] = _
    rw [hone, check, hfind]
    rfl
  | none =>
    refine ⟨?_, ?_⟩
    · rw [hone, check, hfind]
      rfl
    · have hnew : a.identifier ∉ s.owners.keys := by
        refine OrderedMap.get?_eq_none_iff.mp ?_
        rw [h.get?, hfind]
        rfl
      have hentries : ((items before ++ items [named a]).filter (·.home = a.home)) =
          (items before).filter (·.home = a.home) ++ [a] := by
        rw [List.filter_append]
        simp [items]
      show (s.owners.insert a.identifier a.label).entries = _
      rw [OrderedMap.entries_insert_of_notMem hnew, items_append, hentries, List.map_append, h]
      rfl

theorem meets_claimAll (h : s.Holds before home) {as : List Item} (has : ∀ a ∈ as, a.home = home) :
    Meets before (as.map named) (fun next => next.Holds (before ++ as.map named) home)
      (s.claimAll (as.map fun a => (a.identifier, a.label))) := by
  induction as generalizing before s with
  | nil =>
    refine meets_ok before ?_
    rw [List.map_nil, List.append_nil]
    exact h
  | cons a as ih =>
    obtain ⟨rfl, hrest⟩ := List.forall_mem_cons.mp has
    refine (meets_claim h).bind_cons fun next hnext => ?_
    have hall := ih hnext hrest
    rw [List.append_assoc] at hall
    exact hall

/-- A walk meets the demands of its entries in order, if each step adds to the identifiers of one module what it gets
itself. -/
theorem meets_foldlM {α σ : Type} {step : Scope × σ → α → Except EmitError (Scope × σ)} {demandsOf : α → List Demand}
    {as : List α} (h : s.Holds before home) {made : σ}
    (hstep : ∀ {done a rest acc}, as = done ++ a :: rest → acc.1.Holds (before ++ done.flatMap demandsOf) home →
      Meets (before ++ done.flatMap demandsOf) (demandsOf a)
        (fun next => next.1.Holds (before ++ done.flatMap demandsOf ++ demandsOf a) home) (step acc a)) :
    Meets before (as.flatMap demandsOf) (fun next => next.1.Holds (before ++ as.flatMap demandsOf) home)
      (as.foldlM step (s, made)) := by
  have hwalk : ∀ (rest done : List α) (acc : Scope × σ), as = done ++ rest →
      acc.1.Holds (before ++ done.flatMap demandsOf) home →
      Meets (before ++ done.flatMap demandsOf) (rest.flatMap demandsOf)
        (fun next => next.1.Holds (before ++ as.flatMap demandsOf) home) (rest.foldlM step acc) := by
    intro rest
    induction rest with
    | nil =>
      intro done acc hsplit hacc
      rw [List.append_nil] at hsplit
      subst hsplit
      exact meets_ok _ hacc
    | cons a rest ih =>
      intro done acc hsplit hacc
      have hdone : before ++ (done ++ [a]).flatMap demandsOf = before ++ done.flatMap demandsOf ++ demandsOf a := by
        rw [List.flatMap_append, List.flatMap_singleton, List.append_assoc]
      rw [List.flatMap_cons, List.foldlM_cons]
      refine (hstep hsplit hacc).bind fun next hnext => ?_
      rw [← hdone] at hnext ⊢
      exact ih (done ++ [a]) next (by rw [hsplit, List.append_assoc, List.singleton_append]) hnext
  have hall := hwalk as [] (s, made) rfl (by rwa [List.flatMap_nil, List.append_nil])
  rwa [List.flatMap_nil, List.append_nil] at hall

end Scope

/-! ## Controller setup -/

namespace BusSection

variable {t : Topology} {before : List Demand}

/-- The item that the port in a slot is, if there is one. -/
def portItems (t : Topology) (controller : Controller) (slot : Nat) : List Item :=
  (t.ports[slot]?).toList.map fun p => .port controller p.key

/-- What the setup of a controller demands. -/
def controllerDemands (t : Topology) (c : BoardController) : List Demand :=
  .counted c.controller c.ports.length :: (c.ports.flatMap (portItems t c.controller)).map named

/-- What the setup of the controllers that operate in a mode demands. -/
def demands (t : Topology) (mode : ControllerMode) : List Demand :=
  (if mode = .target then [.single (t.controllersIn mode).length] else []) ++
    (t.controllersIn mode).flatMap (controllerDemands t)

theorem home_of_mem_portItems {controller : Controller} {slot : Nat} {a : Item} (h : a ∈ portItems t controller slot) :
    a.home = .ports := by
  obtain ⟨p, -, rfl⟩ := List.mem_map.mp h
  rfl

theorem meets_addPort {controller : Controller} {slot : Nat} (hslot : slot < t.ports.length)
    {acc : Scope × BusSection} (h : acc.1.Holds before .ports) :
    Meets before ((portItems t controller slot).map named)
      (fun next => next.1.Holds (before ++ (portItems t controller slot).map named) .ports)
      (addPort t controller acc slot) := by
  have hp : t.ports[slot]? = some t.ports[slot] := List.getElem?_eq_getElem hslot
  unfold addPort portItems
  simp only [hp]
  have hclaim := Scope.meets_claim (a := .port controller t.ports[slot].key) h
  exact hclaim.done fun _ hnext => hnext

theorem meets_addController {c : BoardController} (hports : ∀ slot ∈ c.ports, slot < t.ports.length)
    {acc : Scope × BusSection} (h : acc.1.Holds before .ports) :
    Meets before (controllerDemands t c) (fun next => next.1.Holds (before ++ controllerDemands t c) .ports)
      (addController t acc c) := by
  have hcount : (Demand.counted c.controller c.ports.length).check before =
      ensure (c.ports.length < 256) (.portCount c.controller) := rfl
  refine (meets_ensure hcount).bind_cons fun _ _ => ?_
  have hstart : acc.1.Holds (before ++ [.counted c.controller c.ports.length]) .ports :=
    h.append (by simp [Avoids, items])
  rw [List.map_flatMap]
  refine (Scope.meets_foldlM hstart fun {_ slot _ _} hsplit hknown => ?_).done fun next hnext => ?_
  · exact meets_addPort (hports slot (by simp [hsplit])) hknown
  · rw [List.append_assoc, List.singleton_append, ← List.map_flatMap] at hnext
    exact hnext

/-- The setup of the controllers of a mode is made exactly if its demands are met. -/
theorem meets_ofTopology (hports : ∀ c ∈ t.controllers, ∀ slot ∈ c.ports, slot < t.ports.length)
    (hnew : Avoids before .ports) (mode : ControllerMode) :
    Meets before (demands t mode) (fun _ => True) (ofTopology t mode false) := by
  have hcontrollers : ∀ {found : List Demand}, Avoids found .ports →
      Meets found ((t.controllersIn mode).flatMap (controllerDemands t)) (fun _ => True)
        ((t.controllersIn mode).foldlM (addController t) ({}, { mode }) >>= fun acc => .ok acc.2) := by
    intro found hfound
    refine (Scope.meets_foldlM (Scope.holds_empty hfound) fun {done c rest acc} hsplit hknown => ?_).done
      fun _ _ => trivial
    have hc : c ∈ t.controllersIn mode := by simp [hsplit]
    exact meets_addController (hports c (List.mem_filter.mp hc).1) hknown
  unfold ofTopology demands
  simp only [Bool.false_eq_true, if_false]
  cases mode with
  | initiator => exact hcontrollers hnew
  | target =>
    have hsingle : (Demand.single (t.controllersIn .target).length).check before =
        ensure ((t.controllersIn .target).length == 1) (.targetCount (t.controllersIn .target).length) := rfl
    refine (meets_ensure hsingle).bind fun _ _ => hcontrollers (hnew.append ?_)
    simp [Avoids, items]

end BusSection

/-! ## Accessors -/

namespace AccessorSection

variable {t : Topology} {before : List Demand}

/-- The items of a driver kind: itself, and what its devices are found by. -/
def kindItems (entry : String × DeviceGroup) : List Item :=
  .kind entry.1 :: (entry.2.byName.keys.map (.name entry.1) ++ (entry.2.byRefdes.keys.map (.refdes entry.1) ++
    entry.2.byBus.keys.map (.bus entry.1)))

/-- The items that accessors are made for. -/
def accessorItems (t : Topology) : List Item := t.groups.entries.flatMap kindItems ++ t.rails.keys.map .rail

theorem meets_ofEntries {α : Type} {owner : String → String} (home : Home) (item : String → Item)
    (hitem : ∀ key, (item key).home = home ∧ (item key).identifier = Identifier.snake key ∧
      (item key).label = owner key) (hnew : Avoids before home) (m : OrderedMap String α) :
    Meets before ((m.keys.map item).map named) (fun _ => True) (ofEntries owner m.entries) := by
  have hclaims : (m.entries.map fun e => (Identifier.snake e.1, owner e.1)) =
      (m.keys.map item).map fun a => (a.identifier, a.label) := by
    rw [OrderedMap.keys, List.map_map, List.map_map]
    refine List.map_congr_left fun e _ => ?_
    simp only [Function.comp_apply, (hitem e.1).2.1, (hitem e.1).2.2]
  unfold ofEntries
  rw [hclaims]
  refine (Scope.meets_claimAll (Scope.holds_empty hnew) ?_).done fun _ _ => trivial
  intro a ha
  obtain ⟨key, -, rfl⟩ := List.mem_map.mp ha
  exact (hitem key).1

/-- The accessors of a driver kind are made exactly if the demands of its items are met. -/
theorem meets_addKind {kind : String} {g : DeviceGroup} (hnames : Avoids before (.names kind))
    (hrefdes : Avoids before (.refdes kind)) (hbuses : Avoids before (.buses kind)) {acc : Scope × AccessorSection}
    (h : acc.1.Holds before .kinds) :
    Meets before ((kindItems (kind, g)).map named)
      (fun next => next.1.Holds (before ++ (kindItems (kind, g)).map named) .kinds) (addKind acc (kind, g)) := by
  have hothers : Avoids ((g.byName.keys.map (.name kind) ++ (g.byRefdes.keys.map (.refdes kind) ++
      g.byBus.keys.map (.bus kind)) : List Item).map named) .kinds := by
    refine avoids_named fun a ha => ?_
    simp only [List.mem_append, List.mem_map] at ha
    rcases ha with ⟨_, -, rfl⟩ | ⟨_, -, rfl⟩ | ⟨_, -, rfl⟩ <;> simp [Item.home]
  have hkind : ∀ home, home ≠ .kinds → Avoids [named (.kind kind)] home := by
    intro home hhome a ha
    obtain rfl : a = .kind kind := by simpa [items] using ha
    exact hhome.symm
  have hkey : ∀ (item : String → Item) (keys : List String) (home home' : Home), (∀ key, (item key).home = home') →
      home' ≠ home → Avoids ((keys.map item).map named) home := by
    intro item keys home home' hitem hne
    refine avoids_named fun a ha => ?_
    obtain ⟨key, -, rfl⟩ := List.mem_map.mp ha
    rw [hitem key]
    exact hne
  have hclaim := Scope.meets_claim (a := .kind kind) h
  simp only [kindItems, List.map_cons, List.map_append] at hothers ⊢
  refine hclaim.bind_cons fun scope hscope => ?_
  refine (meets_ofEntries (.names kind) (.name kind) (fun _ => ⟨rfl, rfl, rfl⟩) ?_ g.byName).bind fun _ _ => ?_
  · exact hnames.append (hkind _ (by simp))
  refine (meets_ofEntries (.refdes kind) (.refdes kind) (fun _ => ⟨rfl, rfl, rfl⟩) ?_ g.byRefdes).bind
    fun _ _ => ?_
  · exact (hrefdes.append (hkind _ (by simp))).append (hkey (.name kind) _ _ (.names kind) (fun _ => rfl) (by simp))
  refine (meets_ofEntries (.buses kind) (.bus kind) (fun _ => ⟨rfl, rfl, rfl⟩) ?_ g.byBus).done fun _ _ => ?_
  · exact ((hbuses.append (hkind _ (by simp))).append (hkey (.name kind) _ _ (.names kind) (fun _ => rfl)
      (by simp))).append (hkey (.refdes kind) _ _ (.refdes kind) (fun _ => rfl) (by simp))
  · have hkept := Scope.Holds.append hscope hothers
    rw [List.append_assoc, List.singleton_append] at hkept
    exact hkept

theorem home_of_mem_kindItems {entry : String × DeviceGroup} {a : Item} (h : a ∈ kindItems entry) :
    a.home = .kinds ∨ a.home = .names entry.1 ∨ a.home = .refdes entry.1 ∨ a.home = .buses entry.1 := by
  simp only [kindItems, List.mem_cons, List.mem_append, List.mem_map] at h
  rcases h with rfl | ⟨_, -, rfl⟩ | ⟨_, -, rfl⟩ | ⟨_, -, rfl⟩ <;> simp [Item.home]

theorem meets_railsOf (t : Topology) (hnew : Avoids before .rails) :
    Meets before ((t.rails.keys.map .rail).map named) (fun _ => True) (railsOf t) := by
  have hclaims : (t.rails.keys.map fun rail => (Identifier.snake rail, s!"rail {rail}")) =
      (t.rails.keys.map Item.rail).map fun a => (a.identifier, a.label) := by
    rw [List.map_map]
    rfl
  unfold railsOf
  rw [hclaims]
  refine (Scope.meets_claimAll (Scope.holds_empty hnew) ?_).done fun _ _ => trivial
  simp [Item.home]

theorem meets_ofTopology (t : Topology) (hnew : ∀ home, home ≠ .ports → Avoids before home) :
    Meets before ((accessorItems t).map named) (fun _ => True) (ofTopology t false) := by
  unfold ofTopology accessorItems
  rw [List.map_append, List.map_flatMap]
  simp only [Bool.false_eq_true, if_false]
  refine (Scope.meets_foldlM (Scope.holds_empty (hnew .kinds (by simp))) fun {done entry _ _} hsplit hknown =>
    ?_).bind fun acc _ => ?_
  · obtain ⟨kind, g⟩ := entry
    have hdone : ∀ home, home = .names kind ∨ home = .refdes kind ∨ home = .buses kind →
        Avoids (before ++ done.flatMap fun entry => (kindItems entry).map named) home := by
      intro home hhome
      refine (hnew home (by rcases hhome with rfl | rfl | rfl <;> simp)).append (avoids_flatMap fun e he a ha heq => ?_)
      have hne : e.1 ≠ kind := t.groups.fst_ne_of_split hsplit he
      have hcases := home_of_mem_kindItems ha
      rw [heq] at hcases
      rcases hhome with rfl | rfl | rfl <;> simp [Ne.symm hne] at hcases
    exact meets_addKind (hdone _ (by simp)) (hdone _ (by simp)) (hdone _ (by simp)) hknown
  · have hrails : Avoids (before ++ t.groups.entries.flatMap fun entry => (kindItems entry).map named) .rails := by
      refine (hnew .rails (by simp)).append (avoids_flatMap fun entry _ a ha => ?_)
      rcases home_of_mem_kindItems ha with h | h | h | h <;> simp [h]
    exact (meets_railsOf t hrails).done fun _ _ => trivial

end AccessorSection

/-! ## Sensors -/

namespace SensorSection

variable {t : Topology} {before : List Demand}

/-- The devices of a group that have sensors. -/
def sensing (t : Topology) (g : DeviceGroup) : List Nat := g.devices.filter fun d => !(t.sensors.ranges d).isEmpty

/-- The items that a device with sensors stands for. -/
def instanceItems (t : Topology) (kind : String) (device : Nat) : List Item :=
  (t.devices[device]?).toList.flatMap fun b => b.names.map (.sensorName kind)

/-- The items of a driver kind: its sensors, if there are any, and the names of the devices that have them. -/
def kindItems (t : Topology) (entry : String × DeviceGroup) : List Item :=
  if (sensing t entry.2).isEmpty then []
  else .sensors entry.1 :: (sensing t entry.2).flatMap (instanceItems t entry.1)

/-- The items that sensor ids are listed for. -/
def sensorItems (t : Topology) : List Item := t.groups.entries.flatMap (kindItems t)

theorem home_of_mem_instanceItems {kind : String} {device : Nat} {a : Item} (h : a ∈ instanceItems t kind device) :
    a.home = .sensorNames kind := by
  obtain ⟨b, -, hb⟩ := List.mem_flatMap.mp h
  obtain ⟨name, -, rfl⟩ := List.mem_map.mp hb
  rfl

theorem meets_addInstance {kind : String} {device : Nat} (hdevice : device < t.devices.length)
    (hsensing : (t.sensors.ranges device).isEmpty = false) (kinds : List SensorKind)
    {acc : Scope × List SensorInstance} (h : acc.1.Holds before (.sensorNames kind)) :
    Meets before ((instanceItems t kind device).map named)
      (fun next => next.1.Holds (before ++ (instanceItems t kind device).map named) (.sensorNames kind))
      (addInstance t kind kinds acc device) := by
  have hd : t.devices[device]? = some t.devices[device] := List.getElem?_eq_getElem hdevice
  have hclaims : (t.devices[device].names.map fun name => (Identifier.upper name, s!"{kind} name {name}")) =
      (instanceItems t kind device).map fun a => (a.identifier, a.label) := by
    simp [instanceItems, hd, Item.identifier, Item.label]
  unfold addInstance
  rw [hd]
  cases hbinding : t.sensors.bindings[device]? with
  | none => simp [SensorTable.ranges, hbinding] at hsensing
  | some binding =>
    simp only [hclaims]
    have hhome : ∀ a ∈ instanceItems t kind device, a.home = .sensorNames kind := fun _ => home_of_mem_instanceItems
    exact (Scope.meets_claimAll h hhome).done fun _ hnext => hnext

theorem home_of_mem_kindItems {entry : String × DeviceGroup} {a : Item} (h : a ∈ kindItems t entry) :
    a.home = .sensors ∨ a.home = .sensorNames entry.1 := by
  unfold kindItems at h
  split at h
  · cases h
  · rcases List.mem_cons.mp h with rfl | h
    · exact Or.inl rfl
    · obtain ⟨device, -, hmem⟩ := List.mem_flatMap.mp h
      exact Or.inr (home_of_mem_instanceItems hmem)

/-- The sensors of a driver kind are listed exactly if the demands of its items are met. -/
theorem meets_addKind {kind : String} {g : DeviceGroup} (hdevices : ∀ device ∈ g.devices, device < t.devices.length)
    (hnames : Avoids before (.sensorNames kind)) {acc : Scope × List SensorModule} (h : acc.1.Holds before .sensors) :
    Meets before ((kindItems t (kind, g)).map named)
      (fun next => next.1.Holds (before ++ (kindItems t (kind, g)).map named) .sensors) (addKind t acc (kind, g)) := by
  unfold addKind kindItems
  simp only
  show Meets before _ _ (if (sensing t g).isEmpty = true then _ else _)
  split
  · refine meets_ok before ?_
    rw [List.map_nil, List.append_nil]
    exact h
  · refine (Scope.meets_claim (a := .sensors kind) h).bind_cons fun scope hscope => ?_
    have hfresh : Avoids (before ++ [named (.sensors kind)]) (.sensorNames kind) :=
      hnames.append (by simp [Avoids, items, Item.home])
    have hinstances :
        Avoids ((sensing t g).flatMap fun device => (instanceItems t kind device).map named) .sensors := by
      refine avoids_flatMap fun device _ a ha => ?_
      rw [home_of_mem_instanceItems ha]
      simp
    rw [List.map_flatMap]
    refine (Scope.meets_foldlM (Scope.holds_empty hfresh) fun {_ device _ _} hsplit hknown => ?_).done fun _ _ => ?_
    · have hmem : device ∈ sensing t g := by simp [hsplit]
      obtain ⟨hdevice, hsensing⟩ := List.mem_filter.mp hmem
      exact meets_addInstance (hdevices device hdevice) (by simpa using hsensing) _ hknown
    · have hkept := Scope.Holds.append hscope hinstances
      rw [List.append_assoc, List.singleton_append, ← List.map_flatMap] at hkept
      exact hkept

theorem meets_ofTopology (hdevices : ∀ e ∈ t.groups.entries, ∀ device ∈ e.2.devices, device < t.devices.length)
    (hnew : ∀ home, home = .sensors ∨ (∃ kind, home = .sensorNames kind) → Avoids before home) :
    Meets before ((sensorItems t).map named) (fun _ => True) (ofTopology t false) := by
  unfold ofTopology sensorItems
  rw [List.map_flatMap]
  simp only [Bool.false_eq_true, if_false]
  refine (Scope.meets_foldlM (Scope.holds_empty (hnew .sensors (Or.inl rfl))) fun {_ entry _ _} hsplit hknown =>
    ?_).done fun _ _ => trivial
  obtain ⟨kind, g⟩ := entry
  have hentry : (kind, g) ∈ t.groups.entries := by simp [hsplit]
  refine meets_addKind (hdevices _ hentry) ((hnew _ (Or.inr ⟨kind, rfl⟩)).append ?_) hknown
  refine avoids_flatMap fun e he a ha heq => ?_
  have hne : e.1 ≠ kind := t.groups.fst_ne_of_split hsplit he
  have hcases := home_of_mem_kindItems ha
  rw [heq] at hcases
  simp [Ne.symm hne] at hcases

end SensorSection

end I2cTopology
