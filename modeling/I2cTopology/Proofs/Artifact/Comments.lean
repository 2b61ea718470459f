import I2cTopology.Artifact.Sections
import I2cTopology.Artifact.Source
import I2cTopology.Topology.Resolution
import Mathlib.Data.List.Forall2

/-!
# Comments and code

What a document says of its devices in free text stands in the comments of a text, and a line end in it is replaced,
so it has no part in the code (`withoutComments`). The name of a rail is written as it stands: what follows a line end
in it gets out of its comment (`leaked`).

- `Artifact.code_eq_of_leaks_eq`: artifacts that differ only in their comments, and whose rails leak the same, have
  texts with the same code;
- `leaked_eq_nil`: a name without a line end leaks nothing;
- `BrokenRail.code_added`: a document with a line end in the name of a rail, whose text has code that it should not.
-/

namespace I2cTopology

/-! ## The code of a text -/

/-- Whether a line is code: what comes first in it, blanks apart, does not begin a comment. -/
def isCode (line : List Char) : Bool := !(List.isPrefixOf ['/', '/'] (line.dropWhile Char.isWhitespace))

/-- The lines of a text that are code. -/
def codeLines (text : List Char) : List (List Char) := (text.splitOn '\n').filter isCode

/-- A text without the lines that are comments. -/
def withoutComments (text : String) : String := String.ofList (['\n'].intercalate (codeLines text.toList))

/-- The code in a text after its first line, which is outside a comment that the text is written into. -/
def leaked (text : String) : List (List Char) := (text.toList.splitOn '\n').tail.filter isCode

theorem codeLines_append_cons (xs ys : List Char) :
    codeLines (xs ++ '\n' :: ys) = codeLines xs ++ codeLines ys := by
  simp only [codeLines, List.splitOn_append_cons_self, List.filter_append]

theorem leaked_eq_nil {text : String} (h : '\n' ∉ text.toList) : leaked text = [] := by
  rw [leaked, List.splitOn_eq_singleton h]
  rfl

theorem lineFeed_notMem_oneLine (text : String) : '\n' ∉ (oneLine text).toList := by
  simp only [oneLine, String.toList_ofList, List.mem_map, not_exists, not_and]
  rintro c - hc
  split at hc <;> simp_all

theorem lineFeed_notMem_of_mem_splitOn {text line : List Char} (h : line ∈ text.splitOn '\n') : '\n' ∉ line := by
  induction text generalizing line with
  | nil =>
    rw [List.splitOn_nil, List.mem_singleton] at h
    simp [h]
  | cons c text ih =>
    rw [List.splitOn_cons_eq_if_modifyHead] at h
    split at h
    · rcases List.mem_cons.mp h with rfl | h
      · exact List.not_mem_nil
      · exact ih h
    · rename_i hc
      obtain ⟨first, rest, hsplit⟩ := List.exists_cons_of_ne_nil (List.splitOn_ne_nil '\n' text)
      rw [hsplit, List.modifyHead_cons, List.mem_cons] at h
      rcases h with rfl | h
      · have hfirst := ih (hsplit ▸ List.mem_cons_self)
        simp_all [Ne.symm]
      · exact ih (hsplit ▸ List.mem_cons_of_mem _ h)

/-- The text tells the lines apart, if there are any. -/
theorem codeLines_eq_of_withoutComments_eq {text text' : String} (h : withoutComments text = withoutComments text')
    (hne : codeLines text.toList ≠ []) (hne' : codeLines text'.toList ≠ []) :
    codeLines text.toList = codeLines text'.toList := by
  have hlines : ∀ text : List Char, ∀ line ∈ codeLines text, '\n' ∉ line := fun text line hline =>
    lineFeed_notMem_of_mem_splitOn (List.mem_of_mem_filter hline)
  rw [← List.splitOn_intercalate '\n' (hlines _) hne, ← List.splitOn_intercalate '\n' (hlines _) hne',
    String.ofList_inj.mp h]

/-- What stands before the first line end of a text only makes its first line longer. -/
theorem splitOn_append {xs : List Char} (h : '\n' ∉ xs) (ys : List Char) :
    (xs ++ ys).splitOn '\n' = (ys.splitOn '\n').modifyHead (xs ++ ·) := by
  induction xs with
  | nil =>
    rw [List.nil_append]
    cases ys.splitOn '\n' <;> rfl
  | cons x xs ih =>
    obtain ⟨hx, hxs⟩ := not_or.mp (mt List.mem_cons.mpr h)
    have hsep : (x == '\n') = false := by simpa using Ne.symm hx
    rw [List.cons_append, List.splitOn_eq_splitOnP, List.splitOnP_cons_eq_if_modifyHead, hsep,
      ← List.splitOn_eq_splitOnP, ih hxs]
    cases ys.splitOn '\n' <;> rfl

theorem isCode_comment (indent : Nat) (cs : List Char) :
    isCode (List.replicate indent ' ' ++ "// ".toList ++ cs) = false := by
  have hblank : ∀ n, (List.replicate n ' ' ++ "// ".toList ++ cs).dropWhile Char.isWhitespace = "// ".toList ++ cs := by
    intro n
    induction n with
    | zero => rfl
    | succ n ih => rw [List.replicate_succ, List.cons_append, List.cons_append, List.dropWhile_cons_of_pos rfl, ih]
  rw [isCode, hblank]
  rfl

/-- A comment has no code but what gets out of it. -/
theorem codeLines_comment (indent : Nat) (text : String) :
    codeLines (List.replicate indent ' ' ++ ("// " ++ text).toList) = leaked text := by
  have hstart : '\n' ∉ List.replicate indent ' ' ++ "// ".toList := by simp
  rw [String.toList_append, ← List.append_assoc, codeLines, splitOn_append hstart, leaked]
  obtain ⟨first, rest, hsplit⟩ := List.exists_cons_of_ne_nil (List.splitOn_ne_nil '\n' text.toList)
  rw [hsplit, List.modifyHead_cons, List.tail_cons, List.filter_cons, isCode_comment]
  rfl

/-! ## Lines with the same code -/

namespace Line

/-- The lines of code that a line is written as. -/
def code (l : Line) : List (List Char) := codeLines (List.replicate l.indent ' ' ++ l.text.toList)

/-- The code of a text is that of its lines, and the empty line after the last line end. -/
theorem codeLines_render (ls : List Line) :
    codeLines (String.join (ls.map render)).toList = ls.flatMap code ++ [[]] := by
  induction ls with
  | nil => rfl
  | cons l ls ih =>
    have hrender : l.render.toList = List.replicate l.indent ' ' ++ l.text.toList ++ ['\n'] := by
      simp [render, String.toList_append]
    rw [List.map_cons, String.join_cons, String.toList_append, hrender, List.append_assoc, List.singleton_append,
      codeLines_append_cons, ih, List.flatMap_cons, List.append_assoc]
    rfl

theorem code_comment (indent : Nat) (text : String) : code ⟨indent, "// " ++ text⟩ = leaked text :=
  codeLines_comment indent text

/-- Two lines are the same, or comments that leak the same. -/
inductive SameCode : Line → Line → Prop
  | refl (l : Line) : SameCode l l
  | comment (indent : Nat) {text text' : String} (h : leaked text = leaked text') :
      SameCode ⟨indent, "// " ++ text⟩ ⟨indent, "// " ++ text'⟩

theorem SameCode.code_eq {l m : Line} (h : l.SameCode m) : l.code = m.code := by
  cases h with
  | refl => rfl
  | comment indent h => rw [code_comment, code_comment, h]

theorem comment_ne_blank (indent : Nat) (text : String) : (⟨indent, "// " ++ text⟩ : Line) ≠ blank := by
  intro h
  have htext := congrArg (fun l : Line => l.text.toList) h
  simp [blank, String.toList_append] at htext

theorem SameCode.indented {l m : Line} (h : l.SameCode m) :
    (if l = blank then l else { l with indent := l.indent + 4 }).SameCode
      (if m = blank then m else { m with indent := m.indent + 4 }) := by
  cases h with
  | refl => exact .refl _
  | comment indent h =>
    rw [if_neg (comment_ne_blank _ _), if_neg (comment_ne_blank _ _)]
    exact .comment _ h

end Line

/-- Two lists of lines with the same code, line by line. -/
def SameLines (ls ms : List Line) : Prop := List.Forall₂ Line.SameCode ls ms

namespace SameLines

theorem refl (ls : List Line) : SameLines ls ls := List.forall₂_same.mpr fun l _ => .refl l

theorem cons {l m : Line} {ls ms : List Line} (h : l.SameCode m) (h' : SameLines ls ms) :
    SameLines (l :: ls) (m :: ms) := List.Forall₂.cons h h'

theorem append {ls ls' ms ms' : List Line} (h : SameLines ls ms) (h' : SameLines ls' ms') :
    SameLines (ls ++ ls') (ms ++ ms') := List.rel_append h h'

theorem inside {ls ms : List Line} (h : SameLines ls ms) : SameLines (Line.inside ls) (Line.inside ms) :=
  List.rel_map (fun _ _ hlm => hlm.indented) h

theorem block {ls ms : List Line} (h : SameLines ls ms) (first last : String) :
    SameLines (Line.block first ls last) (Line.block first ms last) :=
  .cons (.refl _) (append h.inside (refl _))

theorem braced {ls ms : List Line} (h : SameLines ls ms) (head : String) :
    SameLines (Line.braced head ls) (Line.braced head ms) := h.block _ _

theorem codeLines_eq {ls ms : List Line} (h : SameLines ls ms) :
    codeLines (String.join (ls.map Line.render)).toList = codeLines (String.join (ms.map Line.render)).toList := by
  rw [Line.codeLines_render, Line.codeLines_render]
  congr 1
  induction h with
  | nil => rfl
  | cons hlm _ ih => rw [List.flatMap_cons, List.flatMap_cons, hlm.code_eq, ih]

end SameLines

/-! ## Results with the same code -/

/-- Two results are the same failure, or lines with the same code. -/
inductive SameResult : Except EmitError (List Line) → Except EmitError (List Line) → Prop
  | error (e : EmitError) : SameResult (.error e) (.error e)
  | ok {ls ms : List Line} (h : SameLines ls ms) : SameResult (.ok ls) (.ok ms)

namespace SameResult

variable {x y : Except EmitError (List Line)}

theorem refl (x : Except EmitError (List Line)) : SameResult x x :=
  match x with
  | .error e => .error e
  | .ok ls => .ok (.refl ls)

theorem bind {f g : List Line → Except EmitError (List Line)} (h : SameResult x y)
    (hnext : ∀ ls ms, SameLines ls ms → SameResult (f ls) (g ms)) : SameResult (x >>= f) (y >>= g) := by
  cases h with
  | error e => exact .error e
  | ok h => exact hnext _ _ h

theorem map {f g : List Line → List Line} (h : SameResult x y)
    (hnext : ∀ ls ms, SameLines ls ms → SameLines (f ls) (g ms)) : SameResult (x.map f) (y.map g) := by
  cases h with
  | error e => exact .error e
  | ok h => exact .ok (hnext _ _ h)

/-- Items that are alike, each with lines that have the same code. -/
theorem linesOf {α β : Type} {R : α → β → Prop} {f : α → Except EmitError (List Line)}
    {g : β → Except EmitError (List Line)} {as : List α} {bs : List β} (h : List.Forall₂ R as bs)
    (hitem : ∀ a b, R a b → SameResult (f a) (g b)) :
    SameResult (I2cTopology.linesOf f as) (I2cTopology.linesOf g bs) := by
  induction h with
  | nil => exact refl _
  | @cons a b as bs hab _ ih =>
    rw [linesOf_cons, linesOf_cons]
    exact (hitem a b hab).bind fun ls ms hlm => ih.map fun _ _ h' => hlm.append h'

theorem linesOf_same {α : Type} {f g : α → Except EmitError (List Line)} (as : List α)
    (hitem : ∀ a, SameResult (f a) (g a)) : SameResult (I2cTopology.linesOf f as) (I2cTopology.linesOf g as) :=
  linesOf (List.forall₂_same.mpr fun _ _ => rfl) fun a _ hab => hab ▸ hitem a

end SameResult

/-! ## Artifacts that differ in free text -/

/-- A row of the device table without its free text. -/
def DeviceRow.withoutText (d : DeviceRow) : DeviceRow := { d with kind := "", comment := "" }

/-- The accessor of a rail without the name of the rail. -/
def RailAccessor.withoutText (r : RailAccessor) : RailAccessor := { r with rail := "" }

/-- Accessors without the names of the rails. -/
def AccessorSection.withoutText (s : AccessorSection) : AccessorSection :=
  { s with rails := s.rails.map RailAccessor.withoutText }

namespace Artifact

/-- An artifact without the free text of a document. -/
def withoutText (a : Artifact) : Artifact :=
  { a with
    devices := a.devices.map DeviceRow.withoutText
    accessors := a.accessors.map AccessorSection.withoutText }

/-- What gets out of the comment of each rail. -/
def railLeaks (a : Artifact) : List (List (List Char)) :=
  (a.accessors.toList.flatMap (·.rails)).map fun r => leaked r.rail

/-- Two artifacts have the same rows, apart from what their comments say. -/
structure SameRows (a b : Artifact) : Prop where
  corePath_eq : a.corePath = b.corePath
  standalone_eq : a.standalone = b.standalone
  places_eq : a.devices.map (·.place) = b.devices.map (·.place)

namespace SameRows

variable {a b : Artifact}

theorem row_cases (h : a.SameRows b) (i : Nat) :
    (∃ e, a.row i = .error e ∧ b.row i = .error e) ∨
      ∃ d d', a.row i = .ok d ∧ b.row i = .ok d' ∧ d.place = d'.place := by
  have hplace := congrArg (·[i]?) h.places_eq
  simp only [List.getElem?_map] at hplace
  unfold row
  cases ha : a.devices[i]? with
  | none =>
    obtain hb : b.devices[i]? = none := by simpa [ha] using hplace.symm
    exact .inl ⟨_, rfl, by rw [hb]⟩
  | some d =>
    obtain ⟨d', hb, hd⟩ : ∃ d', b.devices[i]? = some d' ∧ d'.place = d.place := by simpa [ha] using hplace.symm
    exact .inr ⟨d, d', rfl, by rw [hb], hd.symm⟩

/-- What is written of a row: its comment, and lines that depend on its place only. -/
theorem sameResult_row (h : a.SameRows b) (i : Nat) {f : DeviceRow → List Line}
    (hf : ∀ d d', d.place = d'.place → SameLines (f d) (f d')) :
    SameResult (a.row i >>= fun d => .ok (f d)) (b.row i >>= fun d => .ok (f d)) := by
  obtain ⟨e, ha, hb⟩ | ⟨d, d', ha, hb, hd⟩ := h.row_cases i
  · rw [ha, hb]
    exact .error e
  · rw [ha, hb]
    exact .ok (hf d d' hd)

theorem note (d d' : DeviceRow) : d.note.SameCode d'.note := by
  refine .comment 0 ?_
  rw [leaked_eq_nil (lineFeed_notMem_oneLine _), leaked_eq_nil (lineFeed_notMem_oneLine _)]

/-- A comment and a line that depends on the place only. -/
theorem noted {d d' : DeviceRow} (hd : d.place = d'.place) (text : DevicePlace → String) :
    SameLines [d.note, ⟨0, text d.place⟩] [d'.note, ⟨0, text d'.place⟩] :=
  .cons (note d d') (hd ▸ SameLines.refl _)

theorem singleLines (h : a.SameRows b) (f : Accessor Nat) : SameResult (a.singleLines f) (b.singleLines f) :=
  h.sameResult_row f.value fun _ _ hd => .cons (.refl _) ((noted hd DevicePlace.text).braced _)

/-- A list of rows, each with a comment and a line of its own. -/
theorem linesOf_noted {α : Type} (h : a.SameRows b) (items : List α) (device : α → Nat)
    (text : α → DevicePlace → String) :
    SameResult
      (linesOf (fun i => (a.row (device i)).map fun d => [d.note, ⟨0, text i d.place⟩]) items)
      (linesOf (fun i => (b.row (device i)).map fun d => [d.note, ⟨0, text i d.place⟩]) items) :=
  .linesOf_same items fun i => h.sameResult_row (device i) fun _ _ hd => noted hd (text i)

theorem severalLines (h : a.SameRows b) (f : Accessor (List Nat)) :
    SameResult (a.severalLines f) (b.severalLines f) :=
  (h.linesOf_noted f.value id fun _ place => place.text ++ ",").bind fun _ _ helements =>
    .ok (.cons (.refl _) ((helements.block _ _).braced _))

theorem familyLines {α : Type} (h : a.SameRows b) (name : String) (modules : List (KindModule α))
    {f g : Accessor α → Except EmitError (List Line)} (haccessor : ∀ accessor, SameResult (f accessor) (g accessor)) :
    SameResult (a.familyLines name modules f) (b.familyLines name modules g) := by
  unfold Artifact.familyLines
  rw [h.corePath_eq]
  refine .bind (.linesOf_same modules fun m => .map (.linesOf_same m.accessors haccessor) fun _ _ hfunctions => ?_)
    fun _ _ hbody => .ok (.cons (.refl _) (hbody.braced _))
  exact .cons (.refl _) (SameLines.braced (.cons (.refl _) hfunctions) _)

/-- Rails that have the same rows and leak the same, one by one. -/
theorem forall₂_rails {rails rails' : List RailAccessor}
    (hsame : rails.map RailAccessor.withoutText = rails'.map RailAccessor.withoutText)
    (hleaks : (rails.map fun r => leaked r.rail) = rails'.map fun r => leaked r.rail) :
    List.Forall₂ (fun r r' => r.withoutText = r'.withoutText ∧ leaked r.rail = leaked r'.rail) rails rails' := by
  induction rails generalizing rails' with
  | nil =>
    obtain rfl : rails' = [] := by simpa using hsame.symm
    exact .nil
  | cons r rails ih =>
    cases rails' with
    | nil => simp at hsame
    | cons r' rails' =>
      obtain ⟨hr, hrails⟩ := List.cons.inj hsame
      obtain ⟨hl, hls⟩ := List.cons.inj hleaks
      exact .cons ⟨hr, hl⟩ (ih hrails hls)

/-- The accessors of a rail, under names that leak the same. -/
theorem railLines (h : a.SameRows b) {r r' : RailAccessor} (hsame : r.withoutText = r'.withoutText)
    (hleaked : leaked r.rail = leaked r'.rail) : SameResult (a.railLines r) (b.railLines r') := by
  obtain ⟨function, rail, entries⟩ := r
  obtain ⟨function', rail', entries'⟩ := r'
  simp only [RailAccessor.withoutText, RailAccessor.mk.injEq, true_and] at hsame
  obtain ⟨rfl, rfl⟩ := hsame
  refine (h.linesOf_noted entries Prod.fst fun e place => s!"({place.text}, {e.2}),").bind fun _ _ helements => .ok ?_
  exact .cons (.refl _) (.cons (.comment 0 hleaked) ((helements.block _ _).braced _))

theorem instanceLines (h : a.SameRows b) (columns : List SensorColumn) (s : SensorInstance) :
    SameResult (a.instanceLines columns s) (b.instanceLines columns s) :=
  h.sameResult_row s.device fun d d' _ => .cons (note d d') (SameLines.refl _)

theorem sensorModuleLines (h : a.SameRows b) (m : SensorModule) :
    SameResult (a.sensorModuleLines m) (b.sensorModuleLines m) := by
  unfold Artifact.sensorModuleLines
  rw [h.corePath_eq]
  refine .bind (.linesOf_same m.instances (h.instanceLines m.columns)) fun _ _ hrecords => .ok (.cons (.refl _) ?_)
  refine SameLines.braced (.append (.append (.append (.refl _) (.cons (.refl _) ?_)) (.refl _)) (.refl _)) _
  exact hrecords.block _ _

theorem sensorLines (h : a.SameRows b) (s : SensorSection) : SameResult (a.sensorLines s) (b.sensorLines s) :=
  .bind (.linesOf_same s.groups h.sensorModuleLines) fun _ _ hmodules =>
    .ok (.cons (.refl _) (SameLines.braced (.append (.refl _) hmodules) _))

theorem armLines (h : a.SameRows b) (arm : ValidationArm) : SameResult (a.armLines arm) (b.armLines arm) :=
  h.sameResult_row arm.device fun _ _ hd => noted hd fun place => armText arm.device place arm.check

theorem validationLines (h : a.SameRows b) (arms : List ValidationArm) :
    SameResult (a.validationLines arms) (b.validationLines arms) := by
  unfold Artifact.validationLines
  rw [h.corePath_eq]
  refine .map (.linesOf_same arms h.armLines) fun _ _ harms => .cons (.refl _) (SameLines.braced ?_ _)
  exact .append (.refl _) (SameLines.braced (.append (.block (.append harms (.refl _)) _ _) (.refl _)) _)

/-- Accessors that differ only in the names of rails, which leak the same. -/
theorem accessorLines (h : a.SameRows b) {s s' : AccessorSection} (hsame : s.withoutText = s'.withoutText)
    (hleaks : (s.rails.map fun r => leaked r.rail) = s'.rails.map fun r => leaked r.rail) :
    SameResult (a.accessorLines s) (b.accessorLines s') := by
  obtain ⟨byKind, byName, byRefdes, byBus, rails⟩ := s
  obtain ⟨byKind', byName', byRefdes', byBus', rails'⟩ := s'
  simp only [AccessorSection.withoutText, AccessorSection.mk.injEq] at hsame
  obtain ⟨rfl, rfl, rfl, rfl, hrails⟩ := hsame
  unfold Artifact.accessorLines
  rw [h.standalone_eq, h.corePath_eq]
  by_cases hstandalone : b.standalone = true
  · rw [if_pos hstandalone, if_pos hstandalone]
    exact .refl _
  · rw [if_neg hstandalone, if_neg hstandalone]
    refine .bind (.linesOf_same byKind h.severalLines) fun _ _ hkind => ?_
    refine .bind (h.familyLines "by_name" byName h.singleLines) fun _ _ hname => ?_
    refine .bind (h.familyLines "by_refdes" byRefdes h.singleLines) fun _ _ hrefdes => ?_
    refine .bind (h.familyLines "by_bus" byBus h.severalLines) fun _ _ hbus => ?_
    refine .bind (.linesOf (forall₂_rails hrails hleaks) fun _ _ hr => h.railLines hr.1 hr.2) fun _ _ hrail => .ok ?_
    refine .append (.cons (.refl _) (SameLines.braced (.cons (.refl _) ?_) _))
      (.cons (.refl _) (SameLines.braced (.cons (.refl _) hrail) _))
    exact ((hkind.append hname).append hrefdes).append hbus

end SameRows

/-- Artifacts that differ only in free text have the same rows. -/
theorem sameRows_of_withoutText_eq {a b : Artifact} (h : a.withoutText = b.withoutText) : a.SameRows b := by
  simp only [withoutText, mk.injEq] at h
  obtain ⟨-, hcorePath, hstandalone, hdevices, -⟩ := h
  refine ⟨hcorePath, hstandalone, ?_⟩
  have hplaces := congrArg (List.map (·.place)) hdevices
  rw [List.map_map, List.map_map] at hplaces
  exact hplaces

/-- A part with the same lines in both artifacts. -/
theorem sameResult_partLines {α β : Type} {R : α → β → Prop} {f : α → Except EmitError (List Line)}
    {g : β → Except EmitError (List Line)} {part : Option α} {part' : Option β} (h : Option.Rel R part part')
    (hpart : ∀ s s', R s s' → SameResult (f s) (g s')) : SameResult (partLines f part) (partLines g part') := by
  cases h with
  | none => exact .refl _
  | some h => exact hpart _ _ h

/-- The accessors of artifacts that differ only in free text, whose rails leak the same. -/
theorem accessors_rel {a b : Artifact} (h : a.withoutText = b.withoutText) (hleaks : a.railLeaks = b.railLeaks) :
    Option.Rel (fun s s' => s.withoutText = s'.withoutText ∧
      (s.rails.map fun r => leaked r.rail) = s'.rails.map fun r => leaked r.rail) a.accessors b.accessors := by
  have haccessors := congrArg Artifact.accessors h
  simp only [withoutText] at haccessors
  unfold railLeaks at hleaks
  cases ha : a.accessors with
  | none =>
    obtain hb : b.accessors = none := by simpa [ha] using haccessors.symm
    rw [hb]
    exact .none
  | some s =>
    obtain ⟨s', hb, hs⟩ : ∃ s', b.accessors = some s' ∧ s'.withoutText = s.withoutText := by
      simpa [ha] using haccessors.symm
    rw [hb]
    exact .some ⟨hs.symm, by simpa [ha, hb] using hleaks⟩

/-- **Comments are not code.** Artifacts that differ only in what their comments say of devices and rails have texts
with the same code, as long as the names of the rails leak the same. -/
theorem code_eq_of_leaks_eq {a b : Artifact} (h : a.withoutText = b.withoutText) (hleaks : a.railLeaks = b.railLeaks) :
    a.render.map withoutComments = b.render.map withoutComments := by
  have hrows := sameRows_of_withoutText_eq h
  have hlines : SameResult a.lines b.lines := by
    have haccessors := accessors_rel h hleaks
    simp only [withoutText, mk.injEq] at h
    obtain ⟨hname, hcorePath, hstandalone, -, hbus, -, hsensors, hvalidation⟩ := h
    unfold lines
    rw [hname, hcorePath, hstandalone, hbus, hsensors, hvalidation]
    refine .bind (.refl _) fun bus bus' hbus => ?_
    refine .bind (sameResult_partLines haccessors fun _ _ hs => hrows.accessorLines hs.1 hs.2)
      fun _ _ haccessors => ?_
    refine .bind (sameResult_partLines (R := Eq) (by cases b.sensors <;> constructor; rfl) fun s _ hs =>
      hs ▸ hrows.sensorLines s) fun _ _ hsensors => ?_
    refine .bind (sameResult_partLines (R := Eq) (by cases b.validation <;> constructor; rfl) fun s _ hs =>
      hs ▸ hrows.validationLines s) fun _ _ hvalidation => .ok ?_
    exact .append (.refl _) ((((hbus.append haccessors).append hsensors).append hvalidation).braced _)
  unfold render
  generalize a.lines = x, b.lines = y at hlines
  cases hlines with
  | error e => rfl
  | ok hlines => simp only [Except.map, withoutComments, hlines.codeLines_eq]

end Artifact

/-! ## A rail that breaks out of its comment -/

namespace BrokenRail

/-- A board with one device, which has a share in one rail. -/
def document (rail description : String) : Document where
  controllers := [{ controller := 1, ports := .ofList [("A", {})] }]
  devices := [
    { device := "adm1272", description := some description, controller := some 1, address := 0x10,
      power := some { rails := [rail] } }]

def board (rail description : String) : Topology := (document rail description).resolve.toOption.getD {}

def artifact (rail description : String) : Artifact where
  moduleName := "i2c_config"
  corePath := "i2c_core"
  standalone := false
  devices := [⟨"adm1272", s!"adm1272 at 0x10: {description}", ⟨⟨1⟩, ⟨0⟩, none, 0x10⟩⟩]
  bus := none
  accessors := some { byKind := [⟨"adm1272", [0]⟩], rails := [⟨"vdd", rail, [(0, 0)]⟩] }
  sensors := none
  validation := none

/-- Another description, and a name that leaks a comment only, make no difference to the code. -/
theorem code_same :
    Artifact.ofTopology (board "VDD" "hot swap") [.devices] {} = .ok (artifact "VDD" "hot swap") ∧
      Artifact.ofTopology (board "vdd\n//" "hot\n\x7dswap") [.devices] {} = .ok (artifact "vdd\n//" "hot\n\x7dswap") ∧
      (artifact "VDD" "hot swap").withoutText = (artifact "vdd\n//" "hot\n\x7dswap").withoutText ∧
      (artifact "VDD" "hot swap").railLeaks = (artifact "vdd\n//" "hot\n\x7dswap").railLeaks ∧
      (artifact "VDD" "hot swap").render.map withoutComments =
        (artifact "vdd\n//" "hot\n\x7dswap").render.map withoutComments := by
  have hleaks : (artifact "VDD" "hot swap").railLeaks = (artifact "vdd\n//" "hot\n\x7dswap").railLeaks := by decide
  exact ⟨rfl, rfl, rfl, hleaks, Artifact.code_eq_of_leaks_eq rfl hleaks⟩

/-- The lines of the text for a board whose rail has a harmless name. -/
def lines : List Line := (artifact "VDD" "hot swap").lines.toOption.getD []

/-- What precedes the comment on the rail. -/
def before : List Line := lines.takeWhile (decide <| · ≠ ⟨8, "// VDD"⟩)

/-- What follows the comment on the rail. -/
def after : List Line := (lines.dropWhile (decide <| · ≠ ⟨8, "// VDD"⟩)).tail

/-- The text has as many lines of code as those around the comment on the rail, and what the rail leaks. -/
theorem length_codeLines {rail text : String}
    (hlines : (artifact rail "hot swap").lines = .ok (before ++ ⟨8, "// " ++ rail⟩ :: after))
    (htext : (artifact rail "hot swap").render = .ok text) :
    codeLines text.toList ≠ [] ∧ (codeLines text.toList).length =
      (before.flatMap Line.code).length + (leaked rail).length + (after.flatMap Line.code).length + 1 := by
  rw [Artifact.render, hlines] at htext
  obtain rfl := Except.ok.inj htext
  rw [Line.codeLines_render, List.flatMap_append, List.flatMap_cons, Line.code_comment]
  refine ⟨List.append_ne_nil_of_right_ne_nil _ (List.cons_ne_nil _ _), ?_⟩
  simp only [List.length_append, List.length_singleton]
  omega

/-- A line end in the name of a rail lets the rest of the name out as code. -/
theorem code_added :
    (document "VDD" "hot swap").resolve = .ok (board "VDD" "hot swap") ∧
      Artifact.ofTopology (board "VDD" "hot swap") [.devices] {} = .ok (artifact "VDD" "hot swap") ∧
      (document "VDD\n\x7d" "hot swap").resolve = .ok (board "VDD\n\x7d" "hot swap") ∧
      Artifact.ofTopology (board "VDD\n\x7d" "hot swap") [.devices] {} = .ok (artifact "VDD\n\x7d" "hot swap") ∧
      (artifact "VDD" "hot swap").withoutText = (artifact "VDD\n\x7d" "hot swap").withoutText ∧
      ∃ text text', (artifact "VDD" "hot swap").render = .ok text ∧
        (artifact "VDD\n\x7d" "hot swap").render = .ok text' ∧ withoutComments text ≠ withoutComments text' := by
  have hlines : (artifact "VDD" "hot swap").lines = .ok (before ++ ⟨8, "// " ++ "VDD"⟩ :: after) := rfl
  have hlines' : (artifact "VDD\n\x7d" "hot swap").lines = .ok (before ++ ⟨8, "// " ++ "VDD\n\x7d"⟩ :: after) := rfl
  obtain ⟨text, htext⟩ : ∃ text, (artifact "VDD" "hot swap").render = .ok text :=
    ⟨_, by rw [Artifact.render, hlines]; rfl⟩
  obtain ⟨text', htext'⟩ : ∃ text', (artifact "VDD\n\x7d" "hot swap").render = .ok text' :=
    ⟨_, by rw [Artifact.render, hlines']; rfl⟩
  refine ⟨rfl, rfl, rfl, rfl, rfl, text, text', htext, htext', fun hsame => ?_⟩
  obtain ⟨hne, hlength⟩ := length_codeLines hlines htext
  obtain ⟨hne', hlength'⟩ := length_codeLines hlines' htext'
  rw [codeLines_eq_of_withoutComments_eq hsame hne hne', hlength'] at hlength
  -- the first name leaks nothing, the second one a brace
  have hleaked : (leaked "VDD").length = 0 := by decide
  have hleaked' : (leaked "VDD\n\x7d").length = 1 := by decide
  omega

end BrokenRail

end I2cTopology
