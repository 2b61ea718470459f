import I2cTopology.CommandLine.Arguments
import I2cTopology.Topology.Ensure
import Mathlib.Data.List.Induction

/-!
# Command lines that ask for an artifact

Whatever artifact can be asked for on the command line has a command line: if each switch has its value in its own
argument and the document comes last, after `--`, what is read is what was asked for (`EmitRequest.parse_arguments`).
A check may be given for a driver kind more than once; the last one counts (`OrderedMap.get?_ofList`).
-/

namespace I2cTopology

/-- The value that is given last under a key. -/
theorem OrderedMap.get?_ofList {κ ν : Type} [DecidableEq κ] (es : List (κ × ν)) (k : κ) :
    (ofList es).get? k = (es.filter (·.1 = k)).getLast?.map Prod.snd := by
  induction es using List.reverseRecOn with
  | nil => rfl
  | append_singleton es e ih =>
    have hlast : ofList (es ++ [e]) = (ofList es).insert e.1 e.2 := List.foldl_append
    rw [hlast, get?_insert, List.filter_append, List.getLast?_append, ih]
    by_cases h : e.1 = k
    · simp [h]
    · simp [h, Ne.symm h]

/-! ## Switches with their values -/

theorem forall_ne_equals {cs : List Char} (h : '=' ∉ cs) : ∀ c ∈ cs, (c != '=') = true := by
  intro c hc
  rw [bne_iff_ne]
  rintro rfl
  exact h hc

theorem takeWhile_before_equals {cs : List Char} (h : '=' ∉ cs) (rest : List Char) :
    (cs ++ '=' :: rest).takeWhile (· != '=') = cs := by
  rw [List.takeWhile_append_of_pos (forall_ne_equals h), List.takeWhile_cons_of_neg (by simp), List.append_nil]

theorem dropWhile_before_equals {cs : List Char} (h : '=' ∉ cs) (rest : List Char) :
    (cs ++ '=' :: rest).dropWhile (· != '=') = '=' :: rest := by
  rw [List.dropWhile_append_of_pos (forall_ne_equals h), List.dropWhile_cons_of_neg (by simp)]

/-- A long switch and its value in one argument. -/
def Switches.valued (name value : String) : String := "--" ++ name ++ "=" ++ value

namespace Switches

variable {σ : Type} {switches : Switches σ} {positional : σ → String → Except Halt σ} {s s' : σ} {rest : List String}

theorem toList_valued (name value : String) :
    (valued name value).toList = '-' :: '-' :: (name.toList ++ '=' :: value.toList) := by
  rw [valued, String.toList_append, String.toList_append, String.toList_append]
  simp only [List.append_assoc]
  rfl

/-- The name of a switch ends before the first `=`. -/
theorem next_valued {name : String} (hname : '=' ∉ name.toList) {short : Option Char}
    {apply : σ → String → Except Halt σ} (hfind : switches.find? (·.long == name) = some ⟨short, name, .value apply⟩)
    (s : σ) (value : String) : next switches s (valued name value) = (apply s value).map .settled := by
  simp only [next, toList_valued, longSwitch, takeWhile_before_equals hname, dropWhile_before_equals hname,
    String.ofList_toList, hfind]

/-- Reading goes on after an argument that settles its switches. -/
theorem read_settled {argument : String} (hdashes : argument ≠ "--") (hswitch : isSwitch argument = true)
    (hnext : next switches s argument = .ok (.settled s')) :
    read switches positional s (argument :: rest) = read switches positional s' rest := by
  rw [read.eq_def]
  simp only [if_neg hdashes, if_pos hswitch, hnext]

/-- Reading goes on after a switch that takes its value. -/
theorem read_valued {name : String} (hname : '=' ∉ name.toList) {short : Option Char}
    {apply : σ → String → Except Halt σ} (hfind : switches.find? (·.long == name) = some ⟨short, name, .value apply⟩)
    {value : String} (hs : apply s value = .ok s') :
    read switches positional s (valued name value :: rest) = read switches positional s' rest := by
  have hswitch : isSwitch (valued name value) = true := by
    rw [isSwitch, toList_valued]
    rfl
  have hdashes : valued name value ≠ "--" := by
    intro h
    have hlist := congrArg String.toList h
    rw [toList_valued] at hlist
    simp at hlist
  refine read_settled hdashes hswitch ?_
  rw [next_valued hname hfind, hs]
  rfl

/-- A switch that is given once for each item of a list. -/
theorem read_map_valued {α : Type} {name : String} (hname : '=' ∉ name.toList) {short : Option Char}
    {apply : σ → String → Except Halt σ} (hfind : switches.find? (·.long == name) = some ⟨short, name, .value apply⟩)
    {text : α → String} {set : σ → α → σ} {items : List α}
    (h : ∀ item ∈ items, ∀ s, apply s (text item) = .ok (set s item)) (s : σ) :
    read switches positional s (items.map (fun item => valued name (text item)) ++ rest) =
      read switches positional (items.foldl set s) rest := by
  induction items generalizing s with
  | nil => rfl
  | cons item items ih =>
    rw [List.forall_mem_cons] at h
    rw [List.map_cons, List.cons_append, read_valued hname hfind (h.1 s), ih h.2, List.foldl_cons]

end Switches

/-! ## Requests -/

/-- What is asked for on a command line. -/
structure EmitRequest where
  config : String
  dispositions : List Disposition
  standalone : Bool
  /-- Driver kinds with the paths of their checks, in the order in which they are given. -/
  checks : List (String × String)
  moduleName : String
  corePath : String
  output : Option String

namespace EmitRequest

/-- What can be asked for: at least one part of the artifact of a document, with paths and driver kinds that are not
empty. The kind of a check ends before the first `=`. -/
structure Valid (r : EmitRequest) : Prop where
  config : r.config ≠ ""
  dispositions : r.dispositions ≠ []
  checks : ∀ c ∈ r.checks, c.1 ≠ "" ∧ '=' ∉ c.1.toList ∧ c.2 ≠ ""
  output : ∀ path, r.output = some path → path ≠ ""

/-- The options that are asked for. -/
def options (r : EmitRequest) : EmitOptions where
  standalone := r.standalone
  moduleName := r.moduleName
  corePath := r.corePath
  checks := .ofList r.checks

/-- A command line for a request. -/
def arguments (r : EmitRequest) : List String :=
  "emit" :: (r.dispositions.map (fun d => Switches.valued "disposition" d.name) ++
    (r.checks.map (fun c => Switches.valued "check" (c.1 ++ "=" ++ c.2)) ++
      (r.output.toList.map (Switches.valued "output") ++
        ((if r.standalone then ["--standalone"] else []) ++
          [Switches.valued "module" r.moduleName, Switches.valued "core-path" r.corePath, "--", r.config]))))

end EmitRequest

namespace Settings

theorem disposition_name (d : Disposition) : disposition d.name = .ok d := by
  cases d <;> rfl

theorem path_of_ne {text : String} (h : text ≠ "") : path text = .ok text := by
  rw [path, if_neg (by rwa [String.isEmpty_iff])]

/-- A check is read as its kind and its path. -/
theorem checkSpec_spelled {c : String × String} (hkind : c.1 ≠ "") (hequals : '=' ∉ c.1.toList)
    (hpath : c.2 ≠ "") : checkSpec (c.1 ++ "=" ++ c.2) = .ok c := by
  obtain ⟨kind, path⟩ := c
  have hlist : (kind ++ "=" ++ path).toList = kind.toList ++ '=' :: path.toList := by
    rw [String.toList_append, String.toList_append, List.append_assoc]
    rfl
  have hkind' : kind.toList ≠ [] := fun h => hkind (String.toList_eq_nil_iff.mp h)
  have hpath' : path.toList ≠ [] := fun h => hpath (String.toList_eq_nil_iff.mp h)
  simp only [checkSpec, hlist, takeWhile_before_equals hequals, dropWhile_before_equals hequals]
  cases hk : kind.toList with
  | nil => exact absurd hk hkind'
  | cons k ks =>
    cases hp : path.toList with
    | nil => exact absurd hp hpath'
    | cons c cs =>
      show Except.ok (String.ofList (k :: ks), String.ofList (c :: cs)) = _
      rw [← hk, ← hp, String.ofList_toList, String.ofList_toList]

theorem foldl_dispositions (ds : List Disposition) (s : Settings) :
    ds.foldl (fun s d => { s with dispositions := s.dispositions ++ [d] }) s =
      { s with dispositions := s.dispositions ++ ds } := by
  induction ds generalizing s with
  | nil => simp
  | cons d ds ih => simp [ih]

theorem foldl_checks (checks : List (String × String)) (s : Settings) :
    checks.foldl (fun s c => { s with checks := s.checks ++ [c] }) s = { s with checks := s.checks ++ checks } := by
  induction checks generalizing s with
  | nil => simp
  | cons c checks ih => simp [ih]

end Settings

namespace EmitRequest

open Settings Switches

variable {r : EmitRequest} {s : Settings} {rest : List String}

theorem read_output (h : r.Valid) (hs : s.output = none) :
    emitSwitches.read takeConfig s (r.output.toList.map (valued "output") ++ rest) =
      emitSwitches.read takeConfig { s with output := r.output } rest := by
  obtain ⟨verbose, config, dispositions, _, standalone, checks, moduleName, corePath⟩ := s
  obtain rfl := hs
  cases hpath : r.output with
  | none => rfl
  | some path =>
    refine read_valued (by decide) rfl ?_
    rw [path_of_ne (h.output path hpath)]
    rfl

theorem read_standalone (r : EmitRequest) (hs : s.standalone = false) :
    emitSwitches.read takeConfig s ((if r.standalone then ["--standalone"] else []) ++ rest) =
      emitSwitches.read takeConfig { s with standalone := r.standalone } rest := by
  obtain ⟨verbose, config, dispositions, output, _, checks, moduleName, corePath⟩ := s
  obtain rfl := hs
  cases r.standalone with
  | false => rfl
  | true => exact read_settled (by decide) rfl rfl

theorem read_config (h : r.Valid) (hs : s.config = none) :
    emitSwitches.read takeConfig s ["--", r.config] = .ok { s with config := some r.config } := by
  obtain ⟨verbose, _, dispositions, output, standalone, checks, moduleName, corePath⟩ := s
  obtain rfl := hs
  show takeConfig _ r.config >>= _ = _
  rw [takeConfig, path_of_ne h.config]
  rfl

/-- What the arguments of a request set. -/
theorem read_arguments (h : r.Valid) : emitSwitches.read takeConfig {} r.arguments.tail = .ok
    { config := some r.config, dispositions := r.dispositions, output := r.output, standalone := r.standalone
      checks := r.checks, moduleName := some r.moduleName, corePath := some r.corePath } := by
  rw [arguments, List.tail_cons]
  rw [read_map_valued (by decide) rfl fun d _ s => by rw [disposition_name]; rfl, foldl_dispositions]
  rw [read_map_valued (by decide) rfl fun c hc s => by
    obtain ⟨hkind, hequals, hpath⟩ := h.checks c hc
    rw [checkSpec_spelled hkind hequals hpath]
    rfl]
  rw [foldl_checks, read_output h rfl, read_standalone r rfl, read_valued (by decide) rfl rfl,
    read_valued (by decide) rfl rfl]
  exact read_config h rfl

/-- What can be asked for can be asked for on the command line. -/
theorem parse_arguments (h : r.Valid) : CommandLine.parse r.arguments =
    .ok ⟨false, .emit r.config r.dispositions r.options r.output⟩ := by
  have hread : CommandLine.parse r.arguments =
      CommandLine.ofCommand false emitSwitches emitCommand r.arguments.tail := rfl
  rw [hread, CommandLine.ofCommand, read_arguments h]
  obtain ⟨d, ds, hds⟩ := List.exists_cons_of_ne_nil h.dispositions
  rw [hds]
  rfl

end EmitRequest

end I2cTopology
