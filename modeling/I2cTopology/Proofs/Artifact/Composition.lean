import I2cTopology.Proofs.Artifact.Failures

/-!
# Artifacts from single parts

What is asked for is made part by part, and no part has an influence on another: an artifact has, in a fixed order, the
parts that are made for each disposition alone (`Artifact.map_parts_ofTopology`), and its text has their texts between a
common head and a last brace (`Artifact.render_eq`). So dispositions compose, for every board that a document is
resolved to (`Topology.Composes`, `Document.dispositions_compose`).
-/

namespace I2cTopology

/-- What is asked for, in the order in which it appears. -/
def Disposition.inOrder (dispositions : List Disposition) : List Disposition := all.filter dispositions.contains

theorem Disposition.mem_inOrder {dispositions : List Disposition} {d : Disposition} :
    d ∈ inOrder dispositions ↔ d ∈ dispositions := by
  have hall : d ∈ all := by cases d <;> decide
  simp [inOrder, hall]

theorem Disposition.inOrder_singleton (d : Disposition) : inOrder [d] = [d] := by
  cases d <;> rfl

/-- A part of an artifact. -/
inductive ArtifactPart where
  | bus (s : BusSection)
  | accessors (s : AccessorSection)
  | sensors (s : SensorSection)
  | validation (arms : List ValidationArm)

/-- The lines of a part in an artifact. -/
def ArtifactPart.lines (a : Artifact) : ArtifactPart → Except EmitError (List Line)
  | .bus s => .ok (s.lines a.corePath a.standalone)
  | .accessors s => a.accessorLines s
  | .sensors s => a.sensorLines s
  | .validation arms => a.validationLines arms

namespace Artifact

open Disposition

variable {t : Topology} {o : EmitOptions} {ds : List Disposition} {a : Artifact}

/-! ## Parts -/

/-- The artifact without its parts. -/
def frame (a : Artifact) : Artifact := { a with bus := none, accessors := none, sensors := none, validation := none }

/-- The parts of an artifact, in the order in which they are written. -/
def parts (a : Artifact) : List ArtifactPart :=
  a.bus.toList.map .bus ++ a.accessors.toList.map .accessors ++ a.sensors.toList.map .sensors ++
    a.validation.toList.map .validation

/-- The artifact with no other part than the one for a disposition. -/
def only (a : Artifact) : Disposition → Artifact
  | .initiator | .target => { a with accessors := none, sensors := none, validation := none }
  | .devices => { a with bus := none, sensors := none, validation := none }
  | .sensors => { a with bus := none, accessors := none, validation := none }
  | .validation => { a with bus := none, accessors := none, sensors := none }

/-- What every artifact of a board has. -/
def bare (t : Topology) (o : EmitOptions) : Artifact where
  moduleName := o.moduleName
  corePath := o.corePath
  standalone := o.standalone
  devices := if o.standalone then [] else t.devices.map DeviceRow.ofDevice
  bus := none
  accessors := none
  sensors := none
  validation := none

/-- The part for a disposition. -/
def makePart (t : Topology) (o : EmitOptions) : Disposition → Except EmitError ArtifactPart
  | .initiator => (BusSection.ofTopology t .initiator o.standalone).map .bus
  | .target => (BusSection.ofTopology t .target o.standalone).map .bus
  | .devices => (AccessorSection.ofTopology t o.standalone).map .accessors
  | .sensors => (SensorSection.ofTopology t o.standalone).map .sensors
  | .validation => .ok (.validation (o.validationArms (bare t o).devices))

theorem frame_of_ofTopology (ha : ofTopology t ds o = .ok a) : a.frame = bare t o := by
  obtain ⟨-, hname, hcorePath, hstandalone, hdevices, -⟩ := ofTopology_eq_ok_iff.mp ha
  rw [frame, bare, hname, hcorePath, hstandalone, hdevices]

/-- A part that may be wanted, in a list. -/
theorem mapM_filter_singleton {α : Type} {d : Disposition} {made : Except EmitError α} {inject : α → ArtifactPart}
    (h : makePart t o d = made.map inject) (ds : List Disposition) :
    ([d].filter ds.contains).mapM (makePart t o) = (part (ds.contains d) made).map fun s => s.toList.map inject := by
  cases hwanted : ds.contains d with
  | false =>
    rw [List.filter_cons_of_neg (by rw [hwanted]; exact Bool.false_ne_true)]
    rfl
  | true =>
    rw [List.filter_cons_of_pos hwanted, List.filter_nil, List.mapM_cons, h]
    cases made <;> rfl

/-- At most one mode is wanted. -/
theorem mapM_filter_modes (hparts : ¬(.initiator ∈ ds ∧ .target ∈ ds)) :
    ([.initiator, .target].filter ds.contains).mapM (makePart t o) =
      (busPart t ds o.standalone).map fun s => s.toList.map .bus := by
  have hsplit : [.initiator, .target].filter ds.contains =
      [Disposition.initiator].filter ds.contains ++ [Disposition.target].filter ds.contains :=
    List.filter_append [_] [_]
  have htarget := mapM_filter_singleton (t := t) (o := o) (d := .target) rfl ds
  unfold busPart
  cases hinitiator : ds.contains .initiator with
  | false =>
    have hnone : [Disposition.initiator].filter ds.contains = [] :=
      List.filter_cons_of_neg (by rw [hinitiator]; exact Bool.false_ne_true)
    rw [hsplit, hnone, List.nil_append, htarget]
    rfl
  | true =>
    have hnone : [Disposition.target].filter ds.contains = [] := by
      simp only [List.contains_eq_mem, decide_eq_true_eq] at hinitiator
      simpa using fun h => hparts ⟨hinitiator, h⟩
    rw [hsplit, hnone, List.append_nil, mapM_filter_singleton (d := .initiator) rfl ds, hinitiator]
    rfl

/-- An artifact has the parts that are made one by one, and the first that is not made is its failure. -/
theorem map_parts_ofTopology (hparts : ¬(.initiator ∈ ds ∧ .target ∈ ds)) :
    (ofTopology t ds o).map parts = (inOrder ds).mapM (makePart t o) := by
  have hsplit : inOrder ds = [.initiator, .target].filter ds.contains ++ ([Disposition.devices].filter ds.contains ++
      ([Disposition.sensors].filter ds.contains ++ [Disposition.validation].filter ds.contains)) := by
    simp only [← List.filter_append]
    rfl
  have hvalidation : ([Disposition.validation].filter ds.contains).mapM (makePart t o) =
      (part (ds.contains .validation) (.ok (o.validationArms (bare t o).devices))).map fun s =>
        s.toList.map .validation := mapM_filter_singleton rfl ds
  rw [hsplit]
  simp only [List.mapM_append]
  rw [mapM_filter_modes hparts, mapM_filter_singleton (d := .devices) rfl ds,
    mapM_filter_singleton (d := .sensors) rfl ds, hvalidation]
  unfold ofTopology
  rw [ensure_compatible hparts]
  -- stage by stage, a failure is the same on both sides
  cases hbus : busPart t ds o.standalone with
  | error e => rfl
  | ok bus =>
    cases haccessors : part (ds.contains .devices) (AccessorSection.ofTopology t o.standalone) with
    | error e => rfl
    | ok accessors =>
      cases hsensors : part (ds.contains .sensors) (SensorSection.ofTopology t o.standalone) with
      | error e => rfl
      | ok sensors =>
        cases ds.contains .validation <;> simp [part, parts, bare, bind, Except.bind, Except.map, pure, Except.pure]

theorem compatible_singleton (d : Disposition) : ¬(.initiator ∈ [d] ∧ .target ∈ [d]) := by
  rintro ⟨hinitiator, htarget⟩
  cases (List.mem_singleton.mp hinitiator).trans (List.mem_singleton.mp htarget).symm

/-- An artifact is made for one disposition exactly if its part is made. -/
theorem ofTopology_singleton (t : Topology) (o : EmitOptions) (d : Disposition) :
    (ofTopology t [d] o).map parts = (makePart t o d).map fun p => [p] := by
  rw [map_parts_ofTopology (compatible_singleton d), inOrder_singleton, List.mapM_cons]
  cases makePart t o d <;> rfl

/-- The part for a disposition is the one that is made for it alone. -/
theorem ofTopology_only (ha : ofTopology t ds o = .ok a) {d : Disposition} (hd : d ∈ ds) :
    ofTopology t [d] o = .ok (a.only d) := by
  obtain ⟨hparts, hname, hcorePath, hstandalone, hdevices, hbus, haccessors, hsensors, hvalidation⟩ :=
    ofTopology_eq_ok_iff.mp ha
  have hframe : (a.only d).moduleName = a.moduleName ∧ (a.only d).corePath = a.corePath ∧
      (a.only d).standalone = a.standalone ∧ (a.only d).devices = a.devices := by
    cases d <;> exact ⟨rfl, rfl, rfl, rfl⟩
  obtain ⟨hname', hcorePath', hstandalone', hdevices'⟩ := hframe
  refine ofTopology_eq_ok_iff.mpr ⟨compatible_singleton d, hname'.trans hname, hcorePath'.trans hcorePath,
    hstandalone'.trans hstandalone, hdevices'.trans hdevices, ?_, ?_, ?_, ?_⟩
  · cases d with
    | initiator => simpa [only, busPart, hd] using hbus
    | target =>
      have hother : .initiator ∉ ds := fun hinitiator => hparts ⟨hinitiator, hd⟩
      simpa [only, busPart, hd, hother] using hbus
    | _ => simp [only, busPart]
  · cases d with
    | devices => simpa [only, hd] using haccessors
    | _ => simp [only]
  · cases d with
    | sensors => simpa [only, hd] using hsensors
    | _ => simp [only]
  · cases d with
    | validation => simpa [only, hd] using hvalidation
    | _ => simp [only]

/-! ## Texts -/

/-- The text of the lines of a part, one step to the right. -/
def partText (lines : List Line) : String := String.join ((Line.inside lines).map Line.render)

/-- The head that artifacts have in common, the texts of their parts, and the last brace. -/
def framed (moduleName body : String) : String :=
  String.join ((preamble ++ [Line.mk 0 s!"pub mod {moduleName} \x7b"]).map Line.render) ++ body ++ "\x7d\n"

theorem partText_append (ls ms : List Line) : partText (ls ++ ms) = partText ls ++ partText ms := by
  simp only [partText, Line.inside, List.map_append, String.join_append]

theorem partText_flatten (lss : List (List Line)) : partText lss.flatten = String.join (lss.map partText) := by
  induction lss with
  | nil => rfl
  | cons ls lss ih => rw [List.flatten_cons, partText_append, ih, List.map_cons, String.join_cons]

theorem linesOf_append {α : Type} (f : α → Except EmitError (List Line)) (as bs : List α) :
    linesOf f (as ++ bs) = linesOf f as >>= fun ls => (linesOf f bs).map (ls ++ ·) := by
  induction as with
  | nil =>
    rw [List.nil_append]
    cases linesOf f bs <;> rfl
  | cons a as ih =>
    rw [List.cons_append, linesOf_cons, linesOf_cons, ih]
    cases f a with
    | error e => rfl
    | ok ls =>
      cases linesOf f as with
      | error e => rfl
      | ok ms =>
        cases linesOf f bs with
        | error e => rfl
        | ok ns => exact congrArg Except.ok (List.append_assoc ls ms ns).symm

/-- A part that an artifact may have is written as a list of at most one. -/
theorem partLines_eq {α : Type} {lines : α → Except EmitError (List Line)} {inject : α → ArtifactPart}
    (h : ∀ s, (inject s).lines a = lines s) (part : Option α) :
    partLines lines part = linesOf (ArtifactPart.lines a) (part.toList.map inject) := by
  cases part with
  | none => rfl
  | some s =>
    rw [Option.toList_some, List.map_singleton, linesOf_cons, h]
    show lines s = _
    cases lines s with
    | error e => rfl
    | ok ls => exact congrArg Except.ok (List.append_nil ls).symm

/-- The text of an artifact is made of the texts of its parts. -/
theorem render_eq (a : Artifact) :
    a.render = (linesOf (ArtifactPart.lines a) a.parts).map fun ls => framed a.moduleName (partText ls) := by
  have hframed : ∀ ls, String.join ((preamble ++ Line.braced s!"pub mod {a.moduleName}" ls).map Line.render) =
      framed a.moduleName (partText ls) := by
    intro ls
    simp only [Line.braced, Line.block, framed, partText, List.map_append, List.map_cons, List.map_nil,
      List.cons_append, String.join_append, String.join_cons, String.append_assoc]
    rfl
  have hbus : ∀ part, partLines (fun s : BusSection => .ok (s.lines a.corePath a.standalone)) part =
      linesOf (ArtifactPart.lines a) (part.toList.map .bus) := partLines_eq fun _ => rfl
  have haccessors : ∀ part, partLines a.accessorLines part =
      linesOf (ArtifactPart.lines a) (part.toList.map .accessors) := partLines_eq fun _ => rfl
  have hsensors : ∀ part, partLines a.sensorLines part =
      linesOf (ArtifactPart.lines a) (part.toList.map .sensors) := partLines_eq fun _ => rfl
  have hvalidation : ∀ part, partLines a.validationLines part =
      linesOf (ArtifactPart.lines a) (part.toList.map .validation) := partLines_eq fun _ => rfl
  unfold render lines parts
  rw [hbus, haccessors, hsensors, hvalidation, linesOf_append, linesOf_append, linesOf_append]
  cases linesOf (ArtifactPart.lines a) (a.bus.toList.map .bus) with
  | error e => rfl
  | ok bus =>
    cases linesOf (ArtifactPart.lines a) (a.accessors.toList.map .accessors) with
    | error e => rfl
    | ok accessors =>
      cases linesOf (ArtifactPart.lines a) (a.sensors.toList.map .sensors) with
      | error e => rfl
      | ok sensors =>
        cases linesOf (ArtifactPart.lines a) (a.validation.toList.map .validation) with
        | error e => rfl
        | ok validation => exact congrArg Except.ok (hframed _)

/-- Nothing but the frame of an artifact matters to the lines of a part. -/
theorem lines_frame (a : Artifact) (p : ArtifactPart) : p.lines a.frame = p.lines a := by
  cases p <;> rfl

/-- The text of the part for a disposition; it is empty if there is none. -/
def bodyOf (t : Topology) (o : EmitOptions) (d : Disposition) : String :=
  ((makePart t o d >>= fun p => p.lines (bare t o)).map partText).toOption.getD ""

theorem bodyOf_eq {d : Disposition} {p : ArtifactPart} {ls : List Line} (hp : makePart t o d = .ok p)
    (hls : p.lines (bare t o) = .ok ls) : bodyOf t o d = partText ls := by
  have hlines : (makePart t o d >>= fun p => p.lines (bare t o)) = .ok ls := by
    rw [hp]
    exact hls
  rw [bodyOf, hlines]
  rfl

/-- The texts of the parts that are made for some dispositions are those for each alone. -/
theorem partText_linesOf {ds : List Disposition} {ps : List ArtifactPart} {ls : List Line}
    (hps : ds.mapM (makePart t o) = .ok ps) (hls : linesOf (ArtifactPart.lines (bare t o)) ps = .ok ls) :
    partText ls = String.join (ds.map (bodyOf t o)) := by
  obtain ⟨lss, hlss, rfl⟩ := map_eq_ok_iff.mp hls
  rw [mapM_eq_ok_iff_forall₂] at hps hlss
  rw [partText_flatten]
  clear hls
  induction hps generalizing lss with
  | nil =>
    rw [List.forall₂_nil_left_iff.mp hlss]
    rfl
  | cons hp _ ih =>
    obtain ⟨ls, lss, hls, hrest, rfl⟩ := List.forall₂_cons_left_iff.mp hlss
    rw [List.map_cons, List.map_cons, String.join_cons, String.join_cons, ih lss hrest, bodyOf_eq hp hls]

theorem render_of_ofTopology (hparts : ¬(.initiator ∈ ds ∧ .target ∈ ds)) (ha : ofTopology t ds o = .ok a)
    {text : String} (htext : a.render = .ok text) :
    text = framed o.moduleName (String.join ((inOrder ds).map (bodyOf t o))) := by
  have hmade := map_parts_ofTopology (t := t) (o := o) hparts
  rw [ha] at hmade
  have hframe := frame_of_ofTopology ha
  rw [render_eq, map_eq_ok_iff] at htext
  obtain ⟨ls, hls, rfl⟩ := htext
  have hlines : ArtifactPart.lines a = ArtifactPart.lines (bare t o) := by
    rw [← hframe]
    exact (funext fun p => lines_frame a p).symm
  have hname : a.moduleName = o.moduleName := congrArg moduleName hframe
  rw [hlines] at hls
  rw [hname, partText_linesOf hmade.symm hls]

end Artifact

/-! ## Composition -/

open Disposition

/-- How the artifact with some parts comes from artifacts with one part each. -/
structure Topology.Composes (t : Topology) (o : EmitOptions) (body : Disposition → String)
    (dispositions : List Disposition) : Prop where
  /-- An artifact is made exactly if one is made for each disposition alone. -/
  made_iff : (∃ a, Artifact.ofTopology t dispositions o = .ok a) ↔
    ∀ d ∈ dispositions, ∃ a, Artifact.ofTopology t [d] o = .ok a
  /-- Otherwise it fails as the first one does for which none is made, in the fixed order. -/
  error_iff : ∀ e, Artifact.ofTopology t dispositions o = .error e ↔
    ∃ before d after, inOrder dispositions = before ++ d :: after ∧
      (∀ b ∈ before, ∃ a, Artifact.ofTopology t [b] o = .ok a) ∧ Artifact.ofTopology t [d] o = .error e
  /-- Each part is the one that is made alone. -/
  part : ∀ a, Artifact.ofTopology t dispositions o = .ok a →
    ∀ d ∈ dispositions, Artifact.ofTopology t [d] o = .ok (a.only d)
  /-- There are no parts that are not asked for. -/
  absent : ∀ a, Artifact.ofTopology t dispositions o = .ok a → a.parts.length = (inOrder dispositions).length
  /-- The text has the body for each disposition, in the fixed order, between the common head and the last brace. -/
  text : ∀ a, Artifact.ofTopology t dispositions o = .ok a →
    t.emit dispositions o = .ok (Artifact.framed o.moduleName (String.join ((inOrder dispositions).map body)))
  /-- The order of what is asked for and repetitions make no difference. -/
  same : ∀ others, (∀ d, d ∈ others ↔ d ∈ dispositions) →
    Artifact.ofTopology t others o = Artifact.ofTopology t dispositions o ∧ t.emit others o = t.emit dispositions o

namespace Artifact

variable {t : Topology} {o : EmitOptions} {ds : List Disposition} {d : Disposition}

theorem exists_ofTopology_singleton_iff :
    (∃ a, ofTopology t [d] o = .ok a) ↔ ∃ p, makePart t o d = .ok p := by
  rw [← exists_map_eq_ok_iff (f := parts), ofTopology_singleton, exists_map_eq_ok_iff]

theorem ofTopology_singleton_eq_error_iff {e : EmitError} :
    ofTopology t [d] o = .error e ↔ makePart t o d = .error e := by
  rw [← map_eq_error_iff (f := parts), ofTopology_singleton, map_eq_error_iff]

/-- Only what is asked for matters, not how. -/
theorem ofTopology_congr {es : List Disposition} (h : ∀ d, d ∈ es ↔ d ∈ ds) (t : Topology) (o : EmitOptions) :
    ofTopology t es o = ofTopology t ds o := by
  have hcontains : ∀ d, es.contains d = ds.contains d := fun d => by simp only [List.contains_eq_mem, h d]
  unfold ofTopology busPart
  simp only [hcontains]

/-- Nothing of a board is in the artifact for a lone task. -/
theorem ofTopology_standalone (h : o.standalone = true) (t t' : Topology) (ds : List Disposition) :
    ofTopology t' ds o = ofTopology t ds o := by
  unfold ofTopology busPart BusSection.ofTopology AccessorSection.ofTopology SensorSection.ofTopology
  simp only [h, if_true]

end Artifact

theorem Document.composes {d : Document} {t : Topology} (h : d.resolve = .ok t) (o : EmitOptions)
    {dispositions : List Disposition} (hparts : ¬(.initiator ∈ dispositions ∧ .target ∈ dispositions)) :
    t.Composes o (Artifact.bodyOf t o) dispositions := by
  have hmade := Artifact.map_parts_ofTopology (t := t) (o := o) hparts
  refine ⟨?_, fun e => ?_, fun a ha d hd => Artifact.ofTopology_only ha hd, fun a ha => ?_, fun a ha => ?_,
    fun others hothers => ?_⟩
  · rw [← exists_map_eq_ok_iff (f := Artifact.parts), hmade, exists_mapM_iff]
    simp only [mem_inOrder, Artifact.exists_ofTopology_singleton_iff]
  · rw [← map_eq_error_iff (f := Artifact.parts), hmade, mapM_eq_error_iff]
    simp only [Artifact.exists_ofTopology_singleton_iff, Artifact.ofTopology_singleton_eq_error_iff]
  · rw [ha] at hmade
    exact (mapM_eq_ok_iff_forall₂.mp hmade.symm).length_eq.symm
  · obtain ⟨text, htext⟩ := Artifact.exists_render h ha
    rw [← Artifact.render_of_ofTopology hparts ha htext, ← htext, Topology.emit, ha]
    rfl
  · have hsame := Artifact.ofTopology_congr hothers t o
    refine ⟨hsame, ?_⟩
    rw [Topology.emit, Topology.emit, hsame]

/-- **Dispositions compose.** Each has a body of its own, whatever else is asked for, and the artifact for a lone task
has the same text for every board. -/
theorem Document.dispositions_compose {d : Document} {t : Topology} (h : d.resolve = .ok t) (o : EmitOptions) :
    (∃ body : Disposition → String, ∀ dispositions, ¬(.initiator ∈ dispositions ∧ .target ∈ dispositions) →
      t.Composes o body dispositions) ∧
    (o.standalone = true → ∀ (t' : Topology) (dispositions : List Disposition),
      t'.emit dispositions o = t.emit dispositions o) := by
  refine ⟨⟨Artifact.bodyOf t o, fun _ hparts => composes h o hparts⟩, fun hstandalone t' dispositions => ?_⟩
  rw [Topology.emit, Topology.emit, Artifact.ofTopology_standalone hstandalone t t']

namespace TwoFans

/-- The bodies of two parts are those of the artifacts with one part, and with the accessors, whose names clash, the
failure is the one of the accessors. -/
theorem dispositions_compose_setup_validation : document.resolve = .ok board ∧ ∃ body : Disposition → String,
    board.emit [.initiator] {} = .ok (Artifact.framed "i2c_config" (body .initiator)) ∧
    board.emit [.validation] {} = .ok (Artifact.framed "i2c_config" (body .validation)) ∧
    board.emit [.validation, .initiator, .validation] {} =
      .ok (Artifact.framed "i2c_config" (body .initiator ++ body .validation)) ∧
    Artifact.ofTopology board [.validation, .devices, .initiator] {} =
      .error (.nameClash "max31790 name Fan-1" "max31790 name fan 1" "fan_1") := by
  have hresolve : document.resolve = .ok board := rfl
  obtain ⟨⟨body, hbody⟩, -⟩ := Document.dispositions_compose hresolve {}
  have hone : ∀ d, String.join ([d].map body) = body d := fun d => by simp [String.join]
  have htwo : String.join ([Disposition.initiator, .validation].map body) = body .initiator ++ body .validation := by
    simp [String.join]
  refine ⟨hresolve, body, ?_, ?_, ?_, ?_⟩
  · rw [← hone]
    exact (hbody [.initiator] (by decide)).text _ rfl
  · rw [← hone]
    exact (hbody [.validation] (by decide)).text _ rfl
  · rw [← htwo]
    exact (hbody [.validation, .initiator, .validation] (by decide)).text _ rfl
  · refine ((hbody [.validation, .devices, .initiator] (by decide)).error_iff _).mpr ?_
    refine ⟨[.initiator], .devices, [.validation], rfl, fun b hb => ?_, rfl⟩
    obtain rfl := List.mem_singleton.mp hb
    exact ⟨_, rfl⟩

end TwoFans

end I2cTopology
