import I2cTopology.Files.Generation
import I2cTopology.CommandLine.Commands
import I2cTopology.Proofs.CommandLine.Requests
import I2cTopology.Proofs.Files.Tree

/-!
# No partial artifact

There are several ways to have an artifact made: with paths, with the variables of a build, and on the command line.
Each is a pipeline of its own, but all come to the same (`ArtifactOrder.Outcome`, `World.no_partial_artifact`):

- if the document cannot be read or has no artifact, no file is touched;
- otherwise nothing but the file of the artifact is touched, and success means that it holds the artifact of the text
  that was read, as a whole;
- a write that fails may leave anything in that file, and it is told as a failure.
-/

namespace I2cTopology

/-! ## Artifacts that are asked for -/

/-- An artifact that is asked for. -/
structure ArtifactOrder where
  config : String
  dispositions : List Disposition
  options : EmitOptions
  /-- The path of the artifact; without one it goes to the output. -/
  destination : Option String

/-- Options that come to the same: the paths of checks may be listed in another order. -/
structure EmitOptions.Alike (o o' : EmitOptions) : Prop where
  standalone : o.standalone = o'.standalone
  moduleName : o.moduleName = o'.moduleName
  corePath : o.corePath = o'.corePath
  checks : ∀ kind, o.checks.get? kind = o'.checks.get? kind

/-- Options that come to the same make the same artifact. -/
theorem EmitOptions.Alike.generate_eq {o o' : EmitOptions} (h : o.Alike o') (text : String)
    (dispositions : List Disposition) : generate text dispositions o = generate text dispositions o' := by
  have harms : o.validationArms = o'.validationArms := by
    unfold validationArms checkPath?
    simp only [h.corePath, h.checks]
  have hmade : ∀ t, Artifact.ofTopology t dispositions o = Artifact.ofTopology t dispositions o' := fun t => by
    unfold Artifact.ofTopology
    rw [h.standalone, h.moduleName, h.corePath, harms]
  unfold generate Topology.emit
  simp only [hmade]

namespace ArtifactOrder

/-- The document cannot be read, or it has no artifact. -/
def Fails (e : ArtifactOrder) (w : World) : Prop :=
  (∃ error, w.files.readText e.config = .error error) ∨
    ∃ text error, w.files.readText e.config = .ok text ∧ generate text e.dispositions e.options = .error error

/-- The artifact of the document as it is read. -/
def Makes (e : ArtifactOrder) (w : World) (artifact : String) : Prop :=
  ∃ text, w.files.readText e.config = .ok text ∧ generate text e.dispositions e.options = .ok artifact

/-- No file is touched but the one at the path of the artifact, and none at all if it has no path. -/
def Touches (e : ArtifactOrder) (w w' : World) : Prop :=
  match e.destination with
  | some path => w.files.TouchesOnly path w'.files
  | none => w'.files = w.files

/-- The artifact is in the file at its path, or it is the last thing in the output. -/
def HandedOver (e : ArtifactOrder) (artifact : String) (w w' : World) : Prop :=
  match e.destination with
  | some path => w.files.Puts path artifact w'.files
  | none => w'.files = w.files ∧ w'.output = w.output ++ artifact

/-- What comes of an artifact that there is. -/
structure Delivered (e : ArtifactOrder) (artifact : String) (w : World) (result : Bool × World) : Prop where
  /-- It succeeds if the artifact has no path or can be written to it. -/
  success_iff : result.1 = true ↔
    ∀ path, e.destination = some path → (w.files.writeText path artifact).1 = .ok ()
  handedOver : result.1 = true → e.HandedOver artifact w result.2
  /-- A write that fails may leave anything in its file, but it touches no other. -/
  touches : e.Touches w result.2

/-- What comes of an artifact that is asked for: whether it succeeded, and the world afterwards. -/
structure Outcome (e : ArtifactOrder) (w : World) (result : Bool × World) : Prop where
  /-- Without an artifact nothing is written. -/
  unmade : e.Fails w → result.1 = false ∧ result.2.files = w.files
  /-- If there is an artifact, it is the one of the document as it was read. -/
  made : ∀ artifact, e.Makes w artifact → e.Delivered artifact w result

theorem fails_or_makes (e : ArtifactOrder) (w : World) : e.Fails w ∨ ∃ artifact, e.Makes w artifact := by
  cases hread : w.files.readText e.config with
  | error error => exact Or.inl (Or.inl ⟨error, hread⟩)
  | ok text =>
    cases hmade : generate text e.dispositions e.options with
    | error error => exact Or.inl (Or.inr ⟨text, error, hread, hmade⟩)
    | ok artifact => exact Or.inr ⟨artifact, text, hread, hmade⟩

/-- The same text, parts and options make the same artifact. -/
theorem Makes.congr {e f : ArtifactOrder} {w v : World} {artifact : String}
    (hdispositions : e.dispositions = f.dispositions) (hoptions : e.options.Alike f.options)
    (htext : w.files.readText e.config = v.files.readText f.config) (h : e.Makes w artifact) : f.Makes v artifact := by
  obtain ⟨text, hread, hmade⟩ := h
  refine ⟨text, htext ▸ hread, ?_⟩
  rw [← hdispositions, ← hoptions.generate_eq]
  exact hmade

/-- An artifact that was delivered with success is the one of the document. -/
theorem Outcome.handedOver {e : ArtifactOrder} {w : World} {result : Bool × World} (h : e.Outcome w result)
    (hsuccess : result.1 = true) {artifact : String} (hmakes : e.Makes w artifact) :
    e.HandedOver artifact w result.2 := by
  exact (h.made artifact hmakes).handedOver hsuccess

/-- There is an artifact wherever there is success. -/
theorem Outcome.makes {e : ArtifactOrder} {w : World} {result : Bool × World} (h : e.Outcome w result)
    (hsuccess : result.1 = true) : ∃ artifact, e.Makes w artifact := by
  refine (e.fails_or_makes w).resolve_left fun hfails => ?_
  rw [(h.unmade hfails).1] at hsuccess
  cases hsuccess

end ArtifactOrder

/-! ## Ways to ask -/

/-- A way to have an artifact made. -/
inductive EntryPoint where
  /-- With the paths of the document and of the directory for the artifact. -/
  | build (config directory : String) (dispositions : List Disposition) (o : EmitOptions)
  /-- With these paths in the variables of a build. -/
  | environment (dispositions : List Disposition) (o : EmitOptions)
  /-- On the command line. -/
  | commandLine (arguments : List String)

namespace EntryPoint

/-- What is asked for, if the variables are set and the command line asks for an artifact. -/
def order (w : World) : EntryPoint → Option ArtifactOrder
  | .build config directory dispositions o =>
    some ⟨config, dispositions, o, some (FileTree.join directory Job.artifactFile)⟩
  | .environment dispositions o =>
    match w.environment.get? Job.configVariable, w.environment.get? Job.directoryVariable with
    | some config, some directory =>
      some ⟨config, dispositions, o, some (FileTree.join directory Job.artifactFile)⟩
    | _, _ => none
  | .commandLine arguments =>
    match CommandLine.parse arguments with
    | .ok ⟨_, .emit config dispositions o output⟩ => some ⟨config, dispositions, o, output⟩
    | _ => none

/-- Whether it succeeds, which is exit code 0 on the command line, and the world afterwards. -/
def run (w : World) : EntryPoint → Bool × World
  | .build config directory dispositions o => ((Job.build config directory dispositions o).run w).map Except.isOk id
  | .environment dispositions o => ((Job.buildFromVariables dispositions o).run w).map Except.isOk id
  | .commandLine arguments => ((CommandLine.job arguments).run w).map (· == 0) id

/-- What comes of it. -/
structure Delivers (p : EntryPoint) (w : World) : Prop where
  /-- If a variable is not set, or something else is asked for, no file is touched. -/
  unasked : p.order w = none → (p.run w).2.files = w.files
  asked : ∀ e, p.order w = some e → e.Outcome w (p.run w)

end EntryPoint

/-! ## Pipelines -/

namespace Job

variable {α : Type} {e : ArtifactOrder} {w : World}

/-- Reads a document, makes its artifact and goes on with what comes of it. -/
def ofDocument (e : ArtifactOrder) (unread : FileError → Job α) (refused : GenerationError → Job α)
    (handOver : String → Job α) : Job α :=
  .readText e.config fun
    | .error error => unread error
    | .ok text => .report (generateLog text e.dispositions e.options)
      (match generate text e.dispositions e.options with
      | .error error => refused error
      | .ok artifact => handOver artifact)

theorem run_ofDocument_of_fails (h : e.Fails w) (unread : FileError → Job α) (refused : GenerationError → Job α)
    (handOver : String → Job α) : ∃ w' : World, w'.files = w.files ∧
      ((∃ error, (ofDocument e unread refused handOver).run w = (unread error).run w') ∨
        ∃ error, (ofDocument e unread refused handOver).run w = (refused error).run w') := by
  rcases h with ⟨error, hread⟩ | ⟨text, error, hread, hmade⟩
  · refine ⟨w, rfl, Or.inl ⟨error, ?_⟩⟩
    rw [ofDocument, run, hread]
  · refine ⟨{ w with log := w.log ++ generateLog text e.dispositions e.options }, rfl, Or.inr ⟨error, ?_⟩⟩
    rw [ofDocument, run, hread]
    simp only [run, hmade]

theorem run_ofDocument_of_makes {artifact : String} (h : e.Makes w artifact) (unread : FileError → Job α)
    (refused : GenerationError → Job α) (handOver : String → Job α) :
    ∃ log, (ofDocument e unread refused handOver).run w = (handOver artifact).run { w with log } := by
  obtain ⟨text, hread, hmade⟩ := h
  refine ⟨w.log ++ generateLog text e.dispositions e.options, ?_⟩
  rw [ofDocument, run, hread]
  simp only [run, hmade]

/-- What the build system is told goes to the output. -/
theorem run_announce (config : String) (next : Job α) (w : World) :
    ∃ output, (announce config next).run w = next.run { w with output } := ⟨_, rfl⟩

end Job

namespace ArtifactOrder

variable {α : Type} {e : ArtifactOrder} {artifact : String}

/-- A job ends as a failure or as a success, and touches no file. -/
def Ends (j : Job α) (succeeds : α → Bool) (success : Bool) : Prop :=
  ∀ w : World, succeeds (j.run w).1 = success ∧ (j.run w).2.files = w.files

/-- A pipeline that ends in a failure if there is no artifact, and delivers the artifact otherwise. -/
theorem outcome_ofDocument (e : ArtifactOrder) (w : World) {unread : FileError → Job α}
    {refused : GenerationError → Job α} {handOver : String → Job α} (succeeds : α → Bool)
    (hunread : ∀ error, Ends (unread error) succeeds false) (hrefused : ∀ error, Ends (refused error) succeeds false)
    (hhandOver : ∀ artifact log,
      e.Delivered artifact w (((handOver artifact).run { w with log }).map succeeds id)) :
    e.Outcome w (((Job.ofDocument e unread refused handOver).run w).map succeeds id) := by
  refine ⟨fun hfails => ?_, fun artifact hmakes => ?_⟩
  · obtain ⟨v, hfiles, ⟨error, hrun⟩ | ⟨error, hrun⟩⟩ := Job.run_ofDocument_of_fails hfails unread refused handOver
    · rw [hrun, ← hfiles]
      exact hunread error v
    · rw [hrun, ← hfiles]
      exact hrefused error v
  · obtain ⟨log, hrun⟩ := Job.run_ofDocument_of_makes hmakes unread refused handOver
    rw [hrun]
    exact hhandOver artifact log

/-- An artifact is delivered by writing it to its path. -/
theorem delivered_writeText {path : String} (hpath : e.destination = some path) (artifact : String) (w : World)
    (log : Log) {succeeds : α → Bool} {next : Except FileError Unit → Job α} (hok : Ends (next (.ok ())) succeeds true)
    (herror : ∀ error, Ends (next (.error error)) succeeds false) :
    e.Delivered artifact w (((Job.writeText path artifact next).run { w with log }).map succeeds id) := by
  have htouches := w.files.touchesOnly_writeText path artifact
  cases hwrite : (w.files.writeText path artifact).1 with
  | error error =>
    simp only [Job.run, hwrite]
    obtain ⟨hfailed, hfiles⟩ := herror error { w with log, files := (w.files.writeText path artifact).2 }
    refine ⟨iff_of_false ?_ ?_, fun hsuccess => ?_, ?_⟩
    · rw [Prod.map_fst, hfailed]
      exact Bool.false_ne_true
    · intro hall
      rw [hall path hpath] at hwrite
      cases hwrite
    · rw [Prod.map_fst, hfailed] at hsuccess
      cases hsuccess
    · rw [Touches, hpath]
      exact hfiles ▸ htouches
  | ok _ =>
    simp only [Job.run, hwrite]
    obtain ⟨hsuccess, hfiles⟩ := hok { w with log, files := (w.files.writeText path artifact).2 }
    refine ⟨iff_of_true hsuccess ?_, fun _ => ?_, ?_⟩
    · rintro _ h
      rw [hpath, Option.some.injEq] at h
      exact h ▸ hwrite
    · rw [HandedOver, hpath]
      exact hfiles ▸ FileTree.puts_of_writeText hwrite
    · rw [Touches, hpath]
      exact hfiles ▸ htouches

theorem outcome_build (config directory : String) (dispositions : List Disposition) (o : EmitOptions) (w : World) :
    ArtifactOrder.Outcome ⟨config, dispositions, o, some (FileTree.join directory Job.artifactFile)⟩ w
      (((Job.build config directory dispositions o).run w).map Except.isOk id) := by
  refine outcome_ofDocument _ w Except.isOk (fun _ _ => ⟨rfl, rfl⟩) (fun _ _ => ⟨rfl, rfl⟩) fun artifact log => ?_
  exact delivered_writeText rfl artifact w log (fun _ => ⟨rfl, rfl⟩) fun _ _ => ⟨rfl, rfl⟩

theorem outcome_emitJob (config : String) (dispositions : List Disposition) (o : EmitOptions) (output : Option String)
    (w : World) : ArtifactOrder.Outcome ⟨config, dispositions, o, output⟩ w
      (((Command.emitJob config dispositions o output).run w).map (· == 0) id) := by
  refine outcome_ofDocument _ w (· == 0) (fun _ _ => ⟨rfl, rfl⟩) (fun _ _ => ⟨rfl, rfl⟩) fun artifact log => ?_
  cases output with
  | none => exact ⟨iff_of_true rfl nofun, fun _ => ⟨rfl, rfl⟩, rfl⟩
  | some path => exact delivered_writeText rfl artifact w log (fun _ => ⟨rfl, rfl⟩) fun _ _ => ⟨rfl, rfl⟩

end ArtifactOrder

theorem resolveText_ne_emit (text : String) (e : EmitError) : resolveText text ≠ .error (.emit e) := by
  unfold resolveText
  cases Document.parse text with
  | error error => nofun
  | ok d =>
    dsimp only
    cases d.resolve <;> nofun

/-- There is a board in a text unless a generation refuses the text for what it says. -/
theorem exists_resolveText_iff (text : String) (dispositions : List Disposition) (o : EmitOptions) :
    (∃ t, resolveText text = .ok t) ↔ (∀ e, generate text dispositions o ≠ .error (.schema e)) ∧
      ∀ e, generate text dispositions o ≠ .error (.topology e) := by
  unfold generate
  cases hresolve : resolveText text with
  | error error =>
    refine iff_of_false nofun fun ⟨hschema, htopology⟩ => ?_
    cases error with
    | schema e => exact hschema e rfl
    | topology e => exact htopology e rfl
    | emit e => exact resolveText_ne_emit text e hresolve
  | ok t =>
    refine iff_of_true ⟨t, rfl⟩ ?_
    dsimp only [bind, Except.bind]
    cases t.emit dispositions o <;> exact ⟨nofun, nofun⟩

namespace Command

/-- A check touches no file, and succeeds if there is a board in the document. -/
theorem run_checkJob (config : String) (w : World) : ((checkJob config).run w).2.files = w.files ∧
    (((checkJob config).run w).1 = 0 ↔
      ∃ text t, w.files.readText config = .ok text ∧ resolveText text = .ok t) := by
  unfold checkJob Job.run
  cases hread : w.files.readText config with
  | error error =>
    refine ⟨rfl, iff_of_false (Nat.succ_ne_zero 0) ?_⟩
    rintro ⟨_, _, htext, _⟩
    cases htext
  | ok text =>
    cases hresolve : resolveText text with
    | error error =>
      simp only [Job.run, hresolve]
      refine ⟨rfl, iff_of_false (Nat.succ_ne_zero 0) ?_⟩
      rintro ⟨_, _, htext, hboard⟩
      cases htext
      rw [hresolve] at hboard
      cases hboard
    | ok t =>
      simp only [Job.run, hresolve]
      exact ⟨trivial, iff_of_true trivial ⟨text, t, rfl, hresolve⟩⟩

end Command

namespace EntryPoint

variable {p : EntryPoint} {w : World}

theorem delivers_of_none (horder : p.order w = none) (hfiles : (p.run w).2.files = w.files) : p.Delivers w := by
  refine ⟨fun _ => hfiles, fun e he => ?_⟩
  rw [horder] at he
  cases he

theorem delivers_of_some {e : ArtifactOrder} (horder : p.order w = some e) (h : e.Outcome w (p.run w)) :
    p.Delivers w := by
  refine ⟨fun hnone => ?_, fun f hf => ?_⟩
  · rw [horder] at hnone
    cases hnone
  · rw [horder, Option.some.injEq] at hf
    exact hf ▸ h

theorem delivers_environment (dispositions : List Disposition) (o : EmitOptions) (w : World) :
    (environment dispositions o).Delivers w := by
  cases hconfig : w.environment.get? Job.configVariable with
  | none =>
    refine delivers_of_none ?_ ?_
    · simp only [order, hconfig]
    · simp only [run, Job.buildFromVariables, Job.run, hconfig]
      rfl
  | some config =>
    cases hdirectory : w.environment.get? Job.directoryVariable with
    | none =>
      refine delivers_of_none ?_ ?_
      · simp only [order, hconfig, hdirectory]
      · simp only [run, Job.buildFromVariables, Job.run, hconfig, hdirectory]
        rfl
    | some directory =>
      have horder : (environment dispositions o).order w =
          some ⟨config, dispositions, o, some (FileTree.join directory Job.artifactFile)⟩ := by
        simp only [order, hconfig, hdirectory]
      refine delivers_of_some horder ?_
      simp only [run, Job.buildFromVariables, Job.run, hconfig, hdirectory]
      obtain ⟨output, hrun⟩ := Job.run_announce config (Job.build config directory dispositions o) w
      rw [hrun]
      have hbuild := ArtifactOrder.outcome_build config directory dispositions o { w with output }
      refine ⟨hbuild.unmade, fun artifact hmakes => ?_⟩
      obtain ⟨hsuccess, hhandedOver, htouches⟩ := hbuild.made artifact hmakes
      exact ⟨hsuccess, hhandedOver, htouches⟩

theorem delivers_commandLine (arguments : List String) (w : World) : (commandLine arguments).Delivers w := by
  cases hparse : CommandLine.parse arguments with
  | error halt =>
    refine delivers_of_none ?_ ?_
    · simp only [order, hparse]
    · simp only [run, CommandLine.job, hparse]
      cases halt <;> rfl
  | ok line =>
    obtain ⟨verbose, command⟩ := line
    cases command with
    | check config =>
      refine delivers_of_none ?_ ?_
      · simp only [order, hparse]
      · simp only [run, CommandLine.job, hparse]
        exact (Command.run_checkJob config w).1
    | emit config dispositions o output =>
      have horder : (commandLine arguments).order w = some ⟨config, dispositions, o, output⟩ := by
        simp only [order, hparse]
      refine delivers_of_some horder ?_
      simp only [run, CommandLine.job, hparse]
      exact ArtifactOrder.outcome_emitJob config dispositions o output w

theorem delivers (p : EntryPoint) (w : World) : p.Delivers w := by
  cases p with
  | build config directory dispositions o =>
    exact delivers_of_some rfl (ArtifactOrder.outcome_build config directory dispositions o w)
  | environment dispositions o => exact delivers_environment dispositions o w
  | commandLine arguments => exact delivers_commandLine arguments w

/-- Whichever ways are taken, the same is handed over for the same text, parts and options. -/
theorem same_artifact {q : EntryPoint} {v : World} {e f : ArtifactOrder} (he : p.order w = some e)
    (hf : q.order v = some f) (hdispositions : e.dispositions = f.dispositions) (hoptions : e.options.Alike f.options)
    (htext : w.files.readText e.config = v.files.readText f.config) (hp : (p.run w).1 = true)
    (hq : (q.run v).1 = true) : ∃ artifact, e.Makes w artifact ∧ e.HandedOver artifact w (p.run w).2 ∧
      f.HandedOver artifact v (q.run v).2 := by
  have hfirst := (p.delivers w).asked e he
  have hsecond := (q.delivers v).asked f hf
  obtain ⟨artifact, hmakes⟩ := hfirst.makes hp
  have hmakes' := hmakes.congr hdispositions hoptions htext
  exact ⟨artifact, hmakes, hfirst.handedOver hp hmakes, hsecond.handedOver hq hmakes'⟩

end EntryPoint

/-! ## All of them -/

/-- The ways to have an artifact made in a world, and the check that makes none. -/
structure World.DeliversWhole (w : World) : Prop where
  /-- Without an artifact no file is touched; otherwise none but its own, and with success it is there as a whole. -/
  delivers : ∀ p : EntryPoint, p.Delivers w
  /-- Whichever ways are taken, and wherever, the same is handed over for the same text, parts and options. -/
  same : ∀ (v : World) (p q : EntryPoint) (e f : ArtifactOrder), p.order w = some e → q.order v = some f →
    e.dispositions = f.dispositions → e.options.Alike f.options →
    w.files.readText e.config = v.files.readText f.config → (p.run w).1 = true → (q.run v).1 = true →
    ∃ artifact, e.Makes w artifact ∧ e.HandedOver artifact w (p.run w).2 ∧ f.HandedOver artifact v (q.run v).2
  /-- Whatever can be asked for can be asked for on the command line. Of the checks for a driver kind the last one
  counts. -/
  requests : ∀ r : EmitRequest, r.Valid →
    (EntryPoint.commandLine r.arguments).order w = some ⟨r.config, r.dispositions, r.options, r.output⟩ ∧
    ∀ kind, r.options.checks.get? kind = (r.checks.filter (·.1 = kind)).getLast?.map Prod.snd
  /-- A check succeeds exactly if the document can be read and would not be refused for what it says, whatever is to be
  made of it. -/
  check : ∀ (arguments : List String) (verbose : Bool) (config : String),
    CommandLine.parse arguments = .ok ⟨verbose, .check config⟩ →
    ∀ (dispositions : List Disposition) (o : EmitOptions), ((CommandLine.job arguments).run w).1 = 0 ↔
      ∃ text, w.files.readText config = .ok text ∧ (∀ e, generate text dispositions o ≠ .error (.schema e)) ∧
        ∀ e, generate text dispositions o ≠ .error (.topology e)

/-- **No partial artifact.** Whichever way an artifact is asked for, nothing is written unless the document has one.
Then no file but its own is touched, and success means that it is there as a whole. Where its file cannot be written,
that file may be cut off, but there is no success. -/
theorem World.no_partial_artifact (w : World) : w.DeliversWhole where
  delivers p := p.delivers w
  same _ _ _ _ _ he hf hdispositions hoptions htext := EntryPoint.same_artifact he hf hdispositions hoptions htext
  requests r h := by
    refine ⟨?_, OrderedMap.get?_ofList r.checks⟩
    simp only [EntryPoint.order, EmitRequest.parse_arguments h]
  check arguments verbose config hparse dispositions o := by
    simp only [CommandLine.job, hparse, Command.job]
    rw [(Command.run_checkJob config w).2]
    simp only [exists_and_left, exists_resolveText_iff _ dispositions o]

/-! A document that is cut off and an empty one, with an old artifact, an empty directory and a place where nothing can
be written to its end. -/

namespace CutOffDocument

def world : World where
  files.files := .ofList [(["a"], "stale".toUTF8), (["b"], "[".toUTF8), (["c"], "".toUTF8)]
  files.directories := [["out"]]
  files.medium.writeFailure file _ :=
    if file = ["full"] then some ⟨.system "No space left on device" 28, some .empty⟩ else none
  environment := .ofList [(Job.configVariable, "c"), (Job.directoryVariable, "out")]

/-- Two checks are given for a driver kind. -/
def checks : List (String × String) := [("tmp117", "checks::first"), ("tmp117", "checks::last")]

def request (config output : String) : EmitRequest where
  config
  dispositions := [.devices]
  standalone := false
  checks
  moduleName := "i2c_config"
  corePath := "i2c_core"
  output := some output

theorem valid_request {config output : String} (h : config ≠ "") (houtput : output ≠ "") :
    (request config output).Valid where
  config := h
  dispositions := List.cons_ne_nil _ _
  checks := by
    show ∀ c ∈ CutOffDocument.checks, _
    decide +kernel
  output := by
    rintro path ⟨⟩
    exact houtput

def options : EmitOptions := (request "c" "a").options

/-- What is asked for. -/
def order (config output : String) : ArtifactOrder := ⟨config, [.devices], options, some output⟩

/-- How it is asked for on the command line. -/
def asked (config output : String) : EntryPoint := .commandLine (request config output).arguments

theorem readText_eq {path text : String} (hlocate : world.files.locate path = .ok (.file [path]))
    (hslash : path.endsWith "/" = false) (hmedium : world.files.medium.readFailure [path] = none)
    (htext : world.files.files.get? [path] = some text.toUTF8) : world.files.readText path = .ok text := by
  rw [FileTree.readText, hlocate]
  simp only [hslash, hmedium, htext, Option.bind_some, FileTree.fromUTF8?_toUTF8]
  rfl

theorem fails (output : String) : (order "b" output).Fails world := by
  have hrefused : (generate "[" [.devices] options).isOk = false := by decide +kernel
  have hread : world.files.readText "b" = .ok "[" :=
    readText_eq (by decide +kernel) (by decide +kernel) rfl (by decide +kernel)
  cases hmade : generate "[" [.devices] options with
  | error e => exact Or.inr ⟨"[", e, hread, hmade⟩
  | ok artifact =>
    rw [hmade] at hrefused
    cases hrefused

theorem makes : ∃ artifact, ∀ output, (order "c" output).Makes world artifact := by
  have hmade : (generate "" [.devices] options).isOk = true := by decide +kernel
  have hread : world.files.readText "c" = .ok "" :=
    readText_eq (by decide +kernel) (by decide +kernel) rfl (by decide +kernel)
  cases hartifact : generate "" [.devices] options with
  | error e =>
    rw [hartifact] at hmade
    cases hmade
  | ok artifact => exact ⟨artifact, fun _ => ⟨"", hread, hartifact⟩⟩

theorem order_environment :
    (EntryPoint.environment [.devices] options).order world = some (order "c" "out/i2c_config.rs") := by
  have hconfig : world.environment.get? Job.configVariable = some "c" := by decide +kernel
  have hdirectory : world.environment.get? Job.directoryVariable = some "out" := by decide +kernel
  have hjoin : FileTree.join "out" Job.artifactFile = "out/i2c_config.rs" := by decide +kernel
  simp only [EntryPoint.order, hconfig, hdirectory, hjoin, order]

/-- An artifact can be written over the old one and into the empty directory. -/
theorem delivered {path artifact : String} {file : List String} {result : Bool × World}
    (h : (order "c" path).Delivered artifact world result) (htarget : world.files.target path = .ok file)
    (hfile : file ≠ ["full"]) : result.1 = true ∧ result.2.files.files.get? file = some artifact.toUTF8 := by
  have hsuccess : result.1 = true := by
    refine h.success_iff.mpr ?_
    rintro _ ⟨⟩
    exact FileTree.writeText_eq_ok_iff.mpr ⟨file, htarget, if_neg hfile⟩
  have hputs : world.files.Puts path artifact result.2.files := h.handedOver hsuccess
  exact ⟨hsuccess, hputs.get?_of_leadsTo (FileTree.leadsTo_of_target htarget).2⟩

/-- It cannot be written where there is no room for it, and the old one stays. -/
theorem undelivered {artifact : String} {result : Bool × World}
    (h : (order "c" "full").Delivered artifact world result) :
    result.1 = false ∧ result.2.files.files.get? ["a"] = some "stale".toUTF8 := by
  have htarget : world.files.target "full" = .ok ["full"] := by decide +kernel
  constructor
  · refine Bool.eq_false_iff.mpr fun hsuccess => ?_
    obtain ⟨file, hfile, hmedium⟩ := FileTree.writeText_eq_ok_iff.mp (h.success_iff.mp hsuccess _ rfl)
    rw [htarget, Except.ok.injEq] at hfile
    subst hfile
    cases hmedium
  · have htouches : world.files.TouchesOnly "full" result.2.files := h.touches
    rw [htouches.get?_eq ["a"] fun hleads => ?_]
    · decide +kernel
    · have hfile := hleads.unique (FileTree.leadsTo_of_target htarget).2
      revert hfile
      decide

/-- Nothing comes of the document that is cut off, and the old artifact stays. The artifact of the empty document takes
its place as a whole, and a build puts the same artifact into the empty directory. Where nothing can be written to its
end there is no success, and the old artifact stays too. -/
theorem no_partial_artifact_of_cut_off_document :
    ((asked "b" "a").run world).1 = false ∧ ((asked "b" "a").run world).2.files = world.files ∧
      (∃ artifact, (order "c" "a").Makes world artifact ∧
        ((asked "c" "a").run world).1 = true ∧
        ((asked "c" "a").run world).2.files.files.get? ["a"] = some artifact.toUTF8 ∧
        ((EntryPoint.environment [.devices] options).run world).1 = true ∧
        ((EntryPoint.environment [.devices] options).run world).2.files.files.get? ["out", "i2c_config.rs"] =
          some artifact.toUTF8) ∧
      ((asked "c" "full").run world).1 = false ∧
      ((asked "c" "full").run world).2.files.files.get? ["a"] = some "stale".toUTF8 ∧
      options.checks.get? "tmp117" = some "checks::last" := by
  obtain ⟨hdelivers, -, hrequests, -⟩ := world.no_partial_artifact
  have horder : ∀ config output, config ≠ "" → output ≠ "" →
      (asked config output).order world = some (order config output) := fun config output hconfig houtput =>
    (hrequests (request config output) (valid_request hconfig houtput)).1
  have hchecks := (hrequests (request "c" "a") (valid_request (by decide) (by decide))).2 "tmp117"
  obtain ⟨hfailed, hfiles⟩ :=
    ((hdelivers (asked "b" "a")).asked _ (horder "b" "a" (by decide) (by decide))).unmade (fails "a")
  obtain ⟨artifact, hmakes⟩ := makes
  have hover := ((hdelivers (asked "c" "a")).asked _ (horder "c" "a" (by decide) (by decide))).made artifact
    (hmakes "a")
  have hinto := ((hdelivers (.environment [.devices] options)).asked _ order_environment).made artifact
    (hmakes "out/i2c_config.rs")
  have hfull := ((hdelivers (asked "c" "full")).asked _ (horder "c" "full" (by decide) (by decide))).made artifact
    (hmakes "full")
  have htarget : world.files.target "a" = .ok ["a"] := by decide +kernel
  have htarget' : world.files.target "out/i2c_config.rs" = .ok ["out", "i2c_config.rs"] := by decide +kernel
  obtain ⟨hsuccess, hget⟩ := delivered hover htarget (by decide)
  obtain ⟨hsuccess', hget'⟩ := delivered hinto htarget' (by decide)
  obtain ⟨hfull, hstale⟩ := undelivered hfull
  exact ⟨hfailed, hfiles, ⟨artifact, hmakes "a", hsuccess, hget, hsuccess', hget'⟩, hfull, hstale,
    hchecks.trans (by decide +kernel)⟩

end CutOffDocument

end I2cTopology
