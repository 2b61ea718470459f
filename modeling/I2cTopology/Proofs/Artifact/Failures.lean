import I2cTopology.Generation
import I2cTopology.Proofs.Artifact.Items
import I2cTopology.Proofs.Artifact.Rows
import I2cTopology.Proofs.Resolution.Faithful
import Mathlib.Data.List.Pairwise

/-!
# Why a resolved document has no artifact

An artifact of a resolved document has a text exactly if its demands are met, and otherwise the first demand that is
not met is the failure (`Document.meets_emit`). With `Document.mem_items_iff`, that says in terms of the declarations
alone when a text is there and what each failure is about (`Document.EndsIn`, `Document.emit_endsIn`). In particular
two limits differ by one: a document may have 256 ports on one controller, but an artifact counts at most 255
(`FullController.emit_eq`).
-/

namespace I2cTopology

/-! ## The demand that is not met -/

namespace Demand

/-- A demand fails after others, with an error. -/
inductive FailsWith (before : List Demand) : Demand → EmitError → Prop
  | single {found : Nat} : found ≠ 1 → FailsWith before (.single found) (.targetCount found)
  | counted {controller : Controller} {ports : Nat} : 256 ≤ ports →
    FailsWith before (.counted controller ports) (.portCount controller)
  | named {a b : Item} : b ∈ items before → a.Clashes b →
    FailsWith before (.named a) (.nameClash a.label b.label a.identifier)

variable {before ds : List Demand} {d : Demand} {e : EmitError}

theorem failsWith_of_check (h : d.check before = .error e) : FailsWith before d e := by
  cases d with
  | single found =>
    obtain ⟨hfound, rfl⟩ := ensure_eq_error_iff.mp h
    exact .single (by simpa using hfound)
  | counted controller ports =>
    obtain ⟨hports, rfl⟩ := ensure_eq_error_iff.mp h
    exact .counted (by simpa using hports)
  | named a =>
    simp only [check] at h
    split at h
    · rename_i b hb
      obtain rfl := Except.error.inj h
      exact .named (List.mem_of_find?_eq_some hb) (by simpa using List.find?_some hb)
    · cases h

/-- A failure is that of the first demand that is not met. -/
theorem exists_failsWith_of_checkAll (h : checkAll before ds = .error e) :
    ∃ done d rest, ds = done ++ d :: rest ∧ FailsWith (before ++ done) d e := by
  induction ds generalizing before with
  | nil => cases h
  | cons d ds ih =>
    have hcons : checkAll before (d :: ds) = d.check before >>= fun _ => checkAll (before ++ [d]) ds := rfl
    rw [hcons] at h
    cases hd : d.check before with
    | error e' =>
      rw [hd] at h
      obtain rfl := Except.error.inj h
      refine ⟨[], d, ds, rfl, ?_⟩
      rw [List.append_nil]
      exact failsWith_of_check hd
    | ok _ =>
      rw [hd] at h
      obtain ⟨done, d', rest, rfl, hfails⟩ := ih h
      refine ⟨d :: done, d', rest, rfl, ?_⟩
      rw [List.append_assoc] at hfails
      exact hfails

theorem check_eq_ok_iff : d.check before = .ok () ↔ (∀ found, d = .single found → found = 1) ∧
    (∀ controller ports, d = .counted controller ports → ports < 256) ∧
    ∀ b ∈ before, ∀ a c, b = .named c → d = .named a → ¬a.Clashes c := by
  cases d with
  | single found => simp [check, ensure_eq_ok_iff]
  | counted controller ports => simp [check, ensure_eq_ok_iff]
  | named a =>
    have hclashes : (∀ b ∈ before, ∀ a' c, b = named c → named a = named a' → ¬a'.Clashes c) ↔
        ∀ c ∈ items before, ¬a.Clashes c := by
      simp only [mem_items]
      constructor
      · intro h c hc
        exact h _ hc a c rfl rfl
      · rintro h _ hb _ c rfl ha
        obtain rfl := Demand.named.inj ha
        exact h c hb
    rw [hclashes]
    have hfind := List.find?_eq_none (p := fun c => decide (a.Clashes c)) (l := items before)
    simp only [decide_eq_true_eq] at hfind
    simp only [reduceCtorEq, false_implies, implies_true, true_and, ← hfind, check]
    cases (items before).find? (Item.Clashes a ·) <;> simp

/-- Demands are met if there is one target controller, ports can be counted and no item clashes with an earlier one. -/
theorem checkAll_eq_ok_iff : checkAll [] ds = .ok () ↔ (∀ found, .single found ∈ ds → found = 1) ∧
    (∀ controller ports, .counted controller ports ∈ ds → ports < 256) ∧
    (items ds).Pairwise fun c a => ¬a.Clashes c := by
  have hall : ∀ (ds before : List Demand), checkAll before ds = .ok () ↔
      EachAfter (fun before d => d.check before = .ok ()) before ds := by
    intro ds
    induction ds with
    | nil => exact fun _ => iff_of_true rfl trivial
    | cons d ds ih =>
      intro before
      rw [EachAfter, ← ih]
      rw [checkAll, bind_eq_ok_iff]
      constructor
      · rintro ⟨_, h⟩
        exact h
      · exact fun h => ⟨(), h⟩
  have hclashes : (ds.Pairwise fun b d => ∀ a c, b = .named c → d = .named a → ¬a.Clashes c) ↔
      (items ds).Pairwise fun c a => ¬a.Clashes c := by
    rw [items, List.pairwise_filterMap]
    refine List.Pairwise.iff fun b d => ?_
    cases b <;> cases d <;> simp
  rw [hall, eachAfter_congr fun _ _ => check_eq_ok_iff, eachAfter_and, eachAfter_and, eachAfter_const, eachAfter_const,
    eachAfter_pairwise, hclashes]
  refine and_congr ?_ (and_congr ?_ Iff.rfl)
  · exact ⟨fun h found hmem => h _ hmem found rfl, fun h d hd found e => h found (e ▸ hd)⟩
  · exact ⟨fun h c n hmem => h _ hmem c n rfl, fun h d hd c n e => h c n (e ▸ hd)⟩

end Demand

/-! ## Parts -/

open Demand

theorem BusSection.avoids_demands {t : Topology} {mode : ControllerMode} {home : Home} (h : home ≠ .ports) :
    Avoids (demands t mode) home := by
  refine Avoids.append ?_ fun a ha => ?_
  · split <;> simp [Avoids, items]
  · obtain ⟨c, -, hc⟩ := List.mem_flatMap.mp (mem_items.mp ha)
    rcases List.mem_cons.mp hc with hcount | hport
    · cases hcount
    · obtain ⟨b, hb, hnamed⟩ := List.mem_map.mp hport
      obtain rfl := Demand.named.inj hnamed
      obtain ⟨slot, -, hslot⟩ := List.mem_flatMap.mp hb
      rw [home_of_mem_portItems hslot]
      exact h.symm

theorem AccessorSection.avoids_accessorItems {t : Topology} {home : Home} (hrails : home ≠ .rails)
    (hkinds : home ≠ .kinds) (hkind : ∀ k, home ≠ .names k ∧ home ≠ .refdes k ∧ home ≠ .buses k) :
    Avoids ((accessorItems t).map .named) home := by
  refine avoids_named fun a ha => ?_
  rcases List.mem_append.mp ha with ha | ha
  · obtain ⟨e, -, he⟩ := List.mem_flatMap.mp ha
    obtain ⟨hnames, hrefdes, hbuses⟩ := hkind e.1
    rcases home_of_mem_kindItems he with hhome | hhome | hhome | hhome <;> rw [hhome] <;> simp [Ne.symm, *]
  · obtain ⟨r, -, rfl⟩ := List.mem_map.mp ha
    exact hrails.symm

/-- A part that is not wanted demands nothing. -/
theorem Artifact.meets_part {α : Type} {before ds : List Demand} {made : Except EmitError α} {post : α → Prop}
    (wanted : Prop) [Decidable wanted] (h : Meets before ds post made) :
    Meets before (if wanted then ds else []) (fun _ => True) (part (decide wanted) made) := by
  by_cases hwanted : wanted
  · simp only [hwanted, if_true, decide_true]
    cases made with
    | error e => exact h
    | ok value => exact ⟨h.1, trivial⟩
  · simp only [hwanted, if_false, decide_false]
    exact meets_ok before trivial

theorem Artifact.ensure_compatible {dispositions : List Disposition}
    (h : ¬(.initiator ∈ dispositions ∧ .target ∈ dispositions)) :
    ensure (!(dispositions.contains .initiator && dispositions.contains .target))
      EmitError.conflictingDispositions = .ok () := by
  rw [ensure_eq_ok_iff]
  simpa [imp_iff_not_or] using h

namespace Document

variable {d : Document} {t : Topology} {dispositions : List Disposition} {o : EmitOptions}

/-- The slots of a controller are rows of the table of ports. -/
theorem slots_lt (h : d.resolve = .ok t) {c : BoardController} (hc : c ∈ t.controllers) :
    ∀ slot ∈ c.ports, slot < t.ports.length := by
  intro slot hslot
  have hall : slot ∈ t.controllers.flatMap (·.ports) := List.mem_flatMap.mpr ⟨c, hc, hslot⟩
  rw [(wellFormed_of_resolve h).slots_dense] at hall
  exact List.mem_range.mp hall

theorem meets_busPart (h : d.resolve = .ok t) : Meets []
    (if .initiator ∈ dispositions then BusSection.demands t .initiator
      else if .target ∈ dispositions then BusSection.demands t .target else [])
    (fun _ => True) (Artifact.busPart t dispositions false) := by
  have hbus : ∀ mode, Meets [] (BusSection.demands t mode) (fun _ => True) (BusSection.ofTopology t mode false) :=
    BusSection.meets_ofTopology (fun _ => slots_lt h) (by simp [Avoids, items])
  unfold Artifact.busPart
  rw [List.contains_eq_mem, List.contains_eq_mem]
  by_cases hinitiator : Disposition.initiator ∈ dispositions
  · simp only [hinitiator, decide_true, if_true]
    exact Artifact.meets_part True (hbus .initiator)
  · simp only [hinitiator, decide_false, Bool.false_eq_true, if_false]
    exact Artifact.meets_part _ (hbus .target)

/-- A full artifact of a resolved document, whose parts go together, is made exactly if its demands are met. -/
theorem meets_artifact (h : d.resolve = .ok t) (hparts : ¬(.initiator ∈ dispositions ∧ .target ∈ dispositions))
    (hfull : o.standalone = false) :
    Meets [] (t.demands dispositions) (fun _ => True) (Artifact.ofTopology t dispositions o) := by
  have hsetUp : ∀ home, home ≠ .ports → Avoids (if .initiator ∈ dispositions then BusSection.demands t .initiator
      else if .target ∈ dispositions then BusSection.demands t .target else []) home := by
    intro home hhome
    split
    · exact BusSection.avoids_demands hhome
    · split
      · exact BusSection.avoids_demands hhome
      · simp [Avoids, items]
  unfold Artifact.ofTopology Topology.demands
  rw [Artifact.ensure_compatible hparts, hfull, List.append_assoc]
  simp only [List.contains_eq_mem]
  refine (meets_busPart h).bind fun bus _ => ?_
  refine (Artifact.meets_part _ (AccessorSection.meets_ofTopology t hsetUp)).bind fun accessors _ => ?_
  refine (Artifact.meets_part _
    (SensorSection.meets_ofTopology (fun e he row hrow => ?_) fun home hhome => ?_)).bind_ok fun sensors _ => ?_
  · exact groupRows_lt h he row (by simp [DeviceGroup.rows, hrow])
  · have hports : home ≠ .ports := by rcases hhome with rfl | ⟨k, rfl⟩ <;> simp
    refine Avoids.append (hsetUp home hports) ?_
    split
    · refine AccessorSection.avoids_accessorItems ?_ ?_ fun k => ?_ <;>
        rcases hhome with rfl | ⟨k, rfl⟩ <;> simp
    · simp [Avoids, items]
  · cases decide (Disposition.validation ∈ dispositions) <;> exact ⟨_, rfl, trivial⟩

/-- It has a text exactly if its demands are met. -/
theorem meets_emit (h : d.resolve = .ok t) (hparts : ¬(.initiator ∈ dispositions ∧ .target ∈ dispositions))
    (hfull : o.standalone = false) : Meets [] (t.demands dispositions) (fun _ => True) (t.emit dispositions o) := by
  have hartifact : Meets [] (t.demands dispositions) (fun _ => True) (Artifact.ofTopology t dispositions o) :=
    meets_artifact h hparts hfull
  unfold Topology.emit
  cases hmade : Artifact.ofTopology t dispositions o with
  | error e =>
    rw [hmade] at hartifact
    exact hartifact
  | ok a =>
    rw [hmade] at hartifact
    obtain ⟨text, htext⟩ := Artifact.exists_render h hmade
    show Meets _ _ _ (a.render)
    rw [htext]
    exact ⟨hartifact.1, trivial⟩

theorem single_mem_demands_iff (h : d.resolve = .ok t) {found : Nat} : .single found ∈ t.demands dispositions ↔
    (.initiator ∉ dispositions ∧ .target ∈ dispositions) ∧ found = (d.controllersIn .target).length := by
  rw [demands_eq h]
  simp [ControllerDecl.demands, List.mem_ite_nil_right]

theorem counted_mem_demands_iff (h : d.resolve = .ok t) {controller : Controller} {ports : Nat} :
    .counted controller ports ∈ t.demands dispositions ↔
      ∃ c ∈ d.setUp dispositions, controller = ⟨c.controller⟩ ∧ ports = c.ports.size := by
  rw [demands_eq h]
  simp [ControllerDecl.demands, List.mem_ite_nil_right]

theorem mem_controllers_of_mem_setUp {c : ControllerDecl} (hc : c ∈ d.setUp dispositions) : c ∈ d.controllers := by
  unfold setUp at hc
  split at hc
  · exact (List.mem_filter.mp hc).1
  · split at hc
    · exact (List.mem_filter.mp hc).1
    · cases hc

/-- No two items clash exactly if none clashes with an earlier one. -/
theorem pairwise_items_iff (h : d.resolve = .ok t) :
    ((items (t.demands dispositions)).Pairwise fun c a => ¬a.Clashes c) ↔
      ∀ a b : Item, a.NamedIn d dispositions → b.NamedIn d dispositions → a ≠ b → ¬a.Clashes b := by
  simp only [← mem_items_iff h]
  constructor
  · intro hpairs a b ha hb hne
    have hsymm : Std.Symm fun c a : Item => ¬a.Clashes c := ⟨fun c a hno hclash => hno ⟨hclash.1.symm, hclash.2.symm⟩⟩
    exact hpairs.forall hb ha hne.symm
  · intro hall
    exact (nodup_items h).pairwise_of_forall_ne fun c hc a ha hne => hall a c ha hc hne.symm

/-- A controller may have one port more than the setup can count. -/
theorem emit_of_full (h : d.resolve = .ok t) (hparts : ¬(.initiator ∈ dispositions ∧ .target ∈ dispositions))
    (hfull : o.standalone = false) (htarget : .target ∈ dispositions → (d.controllersIn .target).length = 1)
    {c : ControllerDecl} {cs : List ControllerDecl} (hsetUp : d.setUp dispositions = c :: cs)
    (hports : c.ports.size = 256) : t.emit dispositions o = .error (.portCount ⟨c.controller⟩) := by
  have hcount : ∀ before, (Demand.counted ⟨c.controller⟩ c.ports.size).check before =
      .error (.portCount ⟨c.controller⟩) := by
    intro before
    rw [check, ensure_eq_error_iff, hports]
    exact ⟨rfl, rfl⟩
  have hsingle : checkAll [] (if .initiator ∉ dispositions ∧ .target ∈ dispositions then
      [.single (d.controllersIn .target).length] else []) = .ok () := by
    split
    · rename_i hone
      rw [htarget hone.2]
      rfl
    · rfl
  rw [(meets_emit h hparts hfull).eq_error_iff, demands_eq h, hsetUp, List.append_assoc, List.append_assoc,
    checkAll_append, hsingle, List.flatMap_cons, ControllerDecl.demands, List.append_assoc, List.cons_append]
  show (Demand.counted ⟨c.controller⟩ c.ports.size).check _ >>= _ = _
  rw [hcount]
  rfl

/-- How the emission of an artifact of a document ends. -/
structure EndsIn (d : Document) (dispositions : List Disposition) (o : EmitOptions)
    (result : Except EmitError String) : Prop where
  conflict : result = .error .conflictingDispositions ↔ .initiator ∈ dispositions ∧ .target ∈ dispositions
  targetCount : ∀ found, result = .error (.targetCount found) ↔ (.initiator ∉ dispositions ∧ .target ∈ dispositions) ∧
    o.standalone = false ∧ found ≠ 1 ∧ found = (d.controllersIn .target).length
  /-- Nothing else fails but a controller with 256 ports and two items with one identifier. -/
  failure : ∀ e, result = .error e → e = .conflictingDispositions ∨ (∃ found, e = .targetCount found) ∨
    (∃ c ∈ d.setUp dispositions, c.ports.size = 256 ∧ e = .portCount ⟨c.controller⟩) ∨
    ∃ a b : Item, a.NamedIn d dispositions ∧ b.NamedIn d dispositions ∧ a ≠ b ∧ a.Clashes b ∧
      e = .nameClash a.label b.label a.identifier
  text : (∃ text, result = .ok text) ↔ ¬(.initiator ∈ dispositions ∧ .target ∈ dispositions) ∧
    (o.standalone = false → (.target ∈ dispositions → (d.controllersIn .target).length = 1) ∧
      (∀ c ∈ d.setUp dispositions, c.ports.size < 256) ∧
      ∀ a b : Item, a.NamedIn d dispositions → b.NamedIn d dispositions → a ≠ b → ¬a.Clashes b)

theorem emit_of_conflict (h : .initiator ∈ dispositions ∧ .target ∈ dispositions) (t : Topology) (o : EmitOptions) :
    t.emit dispositions o = .error .conflictingDispositions := by
  have hconflict : ensure (!(dispositions.contains .initiator && dispositions.contains .target))
      EmitError.conflictingDispositions = .error .conflictingDispositions := by
    rw [ensure_eq_error_iff]
    simpa using h
  unfold Topology.emit Artifact.ofTopology
  rw [hconflict]
  rfl

/-- The stand-ins of a lone task demand nothing. -/
theorem exists_artifact_standalone (t : Topology)
    (hparts : ¬(.initiator ∈ dispositions ∧ .target ∈ dispositions)) (halone : o.standalone = true) :
    ∃ a, Artifact.ofTopology t dispositions o = .ok a := by
  have hpart : ∀ {α : Type} (wanted : Bool) (s : α),
      Artifact.part wanted (.ok s) = .ok (if wanted then some s else none) :=
    fun wanted s => by cases wanted <;> rfl
  have hbus : ∃ bus, Artifact.busPart t dispositions true = .ok bus := by
    unfold Artifact.busPart
    split
    · exact ⟨_, hpart true _⟩
    · exact ⟨_, hpart _ _⟩
  obtain ⟨bus, hbus⟩ := hbus
  obtain ⟨sensors, hsensors⟩ : ∃ s, SensorSection.ofTopology t true = .ok s := ⟨_, rfl⟩
  unfold Artifact.ofTopology
  simp only [Artifact.ensure_compatible hparts, halone, hbus, hsensors,
    show AccessorSection.ofTopology t true = .ok {} from rfl, hpart]
  exact ⟨_, rfl⟩

theorem exists_emit_standalone (h : d.resolve = .ok t)
    (hparts : ¬(.initiator ∈ dispositions ∧ .target ∈ dispositions)) (halone : o.standalone = true) :
    ∃ text, t.emit dispositions o = .ok text := by
  obtain ⟨a, ha⟩ := exists_artifact_standalone t hparts halone
  obtain ⟨text, htext⟩ := Artifact.exists_render h ha
  refine ⟨text, ?_⟩
  rw [Topology.emit, ha]
  exact htext

/-- What a full artifact demands of its document. -/
theorem checkAll_demands_iff (h : d.resolve = .ok t) (hparts : ¬(.initiator ∈ dispositions ∧ .target ∈ dispositions)) :
    checkAll [] (t.demands dispositions) = .ok () ↔
      (.target ∈ dispositions → (d.controllersIn .target).length = 1) ∧
      (∀ c ∈ d.setUp dispositions, c.ports.size < 256) ∧
      ∀ a b : Item, a.NamedIn d dispositions → b.NamedIn d dispositions → a ≠ b → ¬a.Clashes b := by
  rw [checkAll_eq_ok_iff, pairwise_items_iff h]
  simp only [single_mem_demands_iff h, counted_mem_demands_iff h]
  refine and_congr ⟨fun hsingle htarget => ?_, ?_⟩ (and_congr_left fun _ => ⟨fun hcount c hc => ?_, ?_⟩)
  · exact hsingle _ ⟨⟨fun hinitiator => hparts ⟨hinitiator, htarget⟩, htarget⟩, rfl⟩
  · rintro hsingle _ ⟨⟨-, htarget⟩, rfl⟩
    exact hsingle htarget
  · exact hcount _ _ ⟨c, hc, rfl, rfl⟩
  · rintro hcount _ _ ⟨c, hc, rfl, rfl⟩
    exact hcount c hc

/-- What stands in the way of a full artifact whose parts go together. -/
theorem failure_of_emit (h : d.resolve = .ok t) (hparts : ¬(.initiator ∈ dispositions ∧ .target ∈ dispositions))
    (hfull : o.standalone = false) {e : EmitError} (he : t.emit dispositions o = .error e) :
    ((.initiator ∉ dispositions ∧ .target ∈ dispositions) ∧ (d.controllersIn .target).length ≠ 1 ∧
      e = .targetCount (d.controllersIn .target).length) ∨
    (∃ c ∈ d.setUp dispositions, c.ports.size = 256 ∧ e = .portCount ⟨c.controller⟩) ∨
    ∃ a b : Item, a.NamedIn d dispositions ∧ b.NamedIn d dispositions ∧ a ≠ b ∧ a.Clashes b ∧
      e = .nameClash a.label b.label a.identifier := by
  have hchecked := (meets_emit h hparts hfull).eq_error_iff.mp he
  obtain ⟨done, demand, rest, hsplit, hfails⟩ := exists_failsWith_of_checkAll hchecked
  have hdemand : demand ∈ t.demands dispositions := by simp [hsplit]
  cases hfails with
  | single hfound =>
    obtain ⟨htarget, rfl⟩ := (single_mem_demands_iff h).mp hdemand
    exact Or.inl ⟨htarget, hfound, rfl⟩
  | counted hports =>
    obtain ⟨c, hc, rfl, rfl⟩ := (counted_mem_demands_iff h).mp hdemand
    have hlimit := (controllersFit_of_resolve h).ports_fit c (mem_controllers_of_mem_setUp hc)
    exact Or.inr (Or.inl ⟨c, hc, by omega, rfl⟩)
  | @named a b hb hclash =>
    have hdistinct : (items (t.demands dispositions)).Nodup := nodup_items h
    rw [hsplit, items_append, List.nodup_append] at hdistinct
    have ha : a ∈ items (.named a :: rest) := mem_items.mpr List.mem_cons_self
    have hb' : b ∈ items (t.demands dispositions) := by
      rw [hsplit, items_append]
      exact List.mem_append_left _ hb
    exact Or.inr (Or.inr ⟨a, b, (mem_items_iff h).mp (mem_items.mpr hdemand), (mem_items_iff h).mp hb',
      (hdistinct.2.2 b hb a ha).symm, hclash, rfl⟩)

/-- **How an emission ends.** The artifact of a resolved document has a text unless its parts conflict, there is not one
target controller, a controller has 256 ports or two items of one module have the same identifier. -/
theorem emit_endsIn (h : d.resolve = .ok t) (dispositions : List Disposition) (o : EmitOptions) :
    d.EndsIn dispositions o (t.emit dispositions o) := by
  by_cases hparts : .initiator ∈ dispositions ∧ .target ∈ dispositions
  · rw [emit_of_conflict hparts]
    refine ⟨iff_of_true rfl hparts, fun found => ?_, fun e he => ?_, ?_⟩
    · exact iff_of_false (by simp) fun h => h.1.1 hparts.1
    · exact Or.inl (Except.error.inj he).symm
    · exact iff_of_false (by simp) fun h => h.1 hparts
  cases hfull : o.standalone with
  | true =>
    obtain ⟨text, htext⟩ := exists_emit_standalone h hparts hfull
    rw [htext]
    refine ⟨iff_of_false (by simp) hparts, fun found => ?_, fun e he => ?_, ?_⟩
    · exact iff_of_false (by simp) (by simp [hfull])
    · cases he
    · exact iff_of_true ⟨text, rfl⟩ ⟨hparts, by simp [hfull]⟩
  | false =>
    have hmeets := meets_emit h hparts hfull
    refine ⟨iff_of_false (fun he => ?_) hparts, fun found => ⟨fun he => ?_, ?_⟩, fun e he => ?_, ?_⟩
    · rcases failure_of_emit h hparts hfull he with ⟨-, -, hne⟩ | ⟨c, -, -, hne⟩ | ⟨a, b, -, -, -, -, hne⟩ <;> cases hne
    · rcases failure_of_emit h hparts hfull he with ⟨htarget, hfound, heq⟩ | ⟨c, -, -, hne⟩ | ⟨a, b, -, -, -, -, hne⟩
      · obtain rfl := EmitError.targetCount.inj heq
        exact ⟨htarget, hfull, hfound, rfl⟩
      · cases hne
      · cases hne
    · -- the number of target controllers is checked before anything else
      rintro ⟨htarget, -, hfound, rfl⟩
      rw [hmeets.eq_error_iff, demands_eq h, if_pos htarget, List.append_assoc, List.append_assoc]
      have hcheck : (Demand.single (d.controllersIn .target).length).check [] =
          .error (.targetCount (d.controllersIn .target).length) := by
        rw [check, ensure_eq_error_iff]
        exact ⟨by simpa using hfound, rfl⟩
      rw [checkAll_append, checkAll, hcheck]
      rfl
    · exact Or.inr ((failure_of_emit h hparts hfull he).imp_left fun hcount => ⟨_, hcount.2.2⟩)
    · rw [hmeets.exists_ok_iff, checkAll_demands_iff h hparts]
      exact ⟨fun hall => ⟨hparts, fun _ => hall⟩, fun hall => hall.2 hfull⟩

end Document

namespace TwoFans

/-- Two devices of one kind whose names have the same identifier. -/
def document : Document where
  controllers := [{ controller := 2, ports := .ofList [("A", { name := some "main" })] }]
  devices := [
    { device := "max31790", bus := some "main", address := 0x20, names := ["fan 1"] },
    { device := "max31790", bus := some "main", address := 0x21, names := ["Fan-1"] }]

def board : Topology := document.resolve.toOption.getD {}

/-- The failure tells of the two names. -/
theorem emit_endsIn_clash : document.resolve = .ok board ∧
    board.emit [.devices] {} = .error (.nameClash "max31790 name Fan-1" "max31790 name fan 1" "fan_1") ∧
    document.EndsIn [.devices] {} (board.emit [.devices] {}) :=
  ⟨rfl, rfl, Document.emit_endsIn rfl [.devices] {}⟩

end TwoFans

namespace FullController

/-- As many ports as a controller may have. -/
def ports : List (String × PortDecl) :=
  (List.range 256).map fun i => (String.ofList ('P' :: Nat.toDigits 10 i), {})

def controller : ControllerDecl := { controller := 1, ports := .ofList ports }

def document : Document := { controllers := [controller] }

def board : Topology := .ofControllers document.controllers

theorem entries_ports : (OrderedMap.ofList ports).entries = ports := by
  refine OrderedMap.entries_ofList ?_
  rw [ports, List.map_map]
  refine (List.nodup_map_iff fun i j h => ?_).mpr List.nodup_range
  have hdigits := (List.cons.inj (String.ofList_injective h)).2
  rw [← Nat.ofDigitChars_toDigits (b := 10) (n := i) (by decide) (by decide), hdigits,
    Nat.ofDigitChars_toDigits (by decide) (by decide)]

theorem size_ports : controller.ports.size = 256 := by
  have hsize : (OrderedMap.ofList ports).size = 256 := by
    rw [OrderedMap.size, entries_ports, ports, List.length_map, List.length_range]
  simpa only [controller] using hsize

/-- A lone controller with ports that declare nothing fits. -/
theorem controllersFit_singleton {c : ControllerDecl} (hsize : c.ports.size ≤ 256)
    (hports : ∀ e ∈ c.ports.entries, e.2 = {}) : ControllersFit [c] := by
  have hdecl : ∀ p ∈ portSites [c], p.decl = {} := by
    intro p hp
    obtain ⟨c, hc, hsite⟩ := mem_portSites.mp hp
    obtain rfl := List.mem_singleton.mp hc
    obtain ⟨⟨entry, position⟩, hentry, rfl⟩ := List.mem_map.mp hsite
    exact hports entry (List.fst_mem_of_mem_zipIdx hentry)
  refine ⟨by simp, by simpa using hsize, ?_, fun p hp => ?_, ?_⟩
  · rw [List.filterMap_eq_nil_iff.mpr fun p hp => by rw [hdecl p hp]]
    exact List.nodup_nil
  · rw [hdecl p hp]
    exact ⟨by simp, by simp, by simp⟩
  · rw [muxCount, List.map_congr_left (g := fun _ => 0) fun p hp => by rw [hdecl p hp]; rfl]
    simp

theorem resolve_eq : document.resolve = .ok board := by
  have hfits : ControllersFit [controller] := by
    refine controllersFit_singleton (Nat.le_of_eq size_ports) fun e he => ?_
    simp only [controller, entries_ports] at he
    obtain ⟨i, -, rfl⟩ := List.mem_map.mp he
    rfl
  exact bind_eq_ok_iff.mpr ⟨board, foldlM_addController_eq_ok_iff.mpr ⟨hfits, rfl⟩, rfl⟩

/-- The document is resolved, but an artifact with the setup of its controller fails with another error than a clash. -/
theorem emit_eq : document.resolve = .ok board ∧ board.emit [.initiator] {} = .error (.portCount ⟨1⟩) := by
  have hsetUp : document.setUp [.initiator] = [controller] := rfl
  exact ⟨resolve_eq, Document.emit_of_full resolve_eq (by simp) rfl (by simp) hsetUp size_ports⟩

end FullController

end I2cTopology
