import I2cTopology.Artifact.Identifier
import Mathlib.Data.List.Basic

/-!
# What an identifier keeps of its text

The underscores that an identifier has besides the words of its text belong to no word, so it has the same words
(`Identifier.words_derive`). Everything else follows from that: two texts have one identifier exactly if their words
are the same up to case, whichever case is asked for (`Identifier.derive_eq_derive_iff`), an identifier is its own
(`Identifier.derive_derive`), and none is a reserved word, since no reserved word is its own identifier.

- `Identifier.words_eq_runs`: the words of a text are its maximal runs of letters and digits;
- `Identifier.spelled_derive`: each identifier is spelled as the generated language has it;
- `Identifier.isName_derive_iff`: an item can be called by it, unless its text has neither letters nor digits; then the
  identifier is the lone underscore (`Identifier.derive_eq_underscore_iff`).
-/

namespace I2cTopology.Identifier

/-! ## The runs of a text -/

/-- The maximal runs of ASCII letters and digits in a text. -/
def runs (text : String) : List (List Char) := (text.toList.splitOnP fun c => !c.isAlphanum).filter (· ≠ [])

theorem consWord_filter (word : List Char) (ws : List (List Char)) :
    consWord word (ws.filter (· ≠ [])) = (word :: ws).filter (· ≠ []) := by
  cases word <;> simp [consWord]

theorem wordsFrom_eq_splitOnP (word cs : List Char) :
    wordsFrom word cs = ((cs.splitOnP fun c => !c.isAlphanum).modifyHead (word ++ ·)).filter (· ≠ []) := by
  induction cs generalizing word with
  | nil =>
    rw [wordsFrom, ← List.filter_nil (p := (· ≠ [])), consWord_filter]
    simp
  | cons c cs ih =>
    rw [wordsFrom, List.splitOnP_cons_eq_if_modifyHead]
    obtain ⟨run, rest, hsplit⟩ : ∃ run rest, (cs.splitOnP fun c => !c.isAlphanum) = run :: rest :=
      List.exists_cons_of_ne_nil (List.splitOnP_ne_nil _ _)
    by_cases hc : isWordChar c = true
    · have hin : ¬(!c.isAlphanum) = true := by simpa [isWordChar] using hc
      rw [if_pos hc, if_neg hin, ih, hsplit]
      simp
    · have hout : (!c.isAlphanum) = true := by simpa [isWordChar] using hc
      rw [if_neg hc, if_pos hout, ih, consWord_filter, hsplit]
      simp

/-- The words of a text are its maximal runs of letters and digits. -/
theorem words_eq_runs (text : String) : words text.toList = runs text := by
  rw [words, wordsFrom_eq_splitOnP, runs]
  congr 1
  cases text.toList.splitOnP fun c => !c.isAlphanum <;> rfl

/-! ## The words of a list of words -/

/-- A word: some letters and digits. -/
structure IsWord (word : List Char) : Prop where
  ne_nil : word ≠ []
  chars : ∀ c ∈ word, isWordChar c = true

theorem wordsFrom_append {cs : List Char} (h : ∀ c ∈ cs, isWordChar c = true) (word rest : List Char) :
    wordsFrom word (cs ++ rest) = wordsFrom (word ++ cs) rest := by
  induction cs generalizing word with
  | nil => simp
  | cons c cs ih =>
    rw [List.forall_mem_cons] at h
    rw [List.cons_append, wordsFrom, if_pos h.1, ih h.2, List.append_assoc, List.singleton_append]

/-- What stands between two characters that belong to no word is read for itself. -/
theorem wordsFrom_append_cons {c : Char} (hc : isWordChar c = false) (word before after : List Char) :
    wordsFrom word (before ++ c :: after) = wordsFrom word before ++ words after := by
  induction before generalizing word with
  | nil =>
    simp only [List.nil_append, wordsFrom, hc, Bool.false_eq_true, if_false, words]
    cases word <;> simp [consWord]
  | cons b before ih =>
    rw [List.cons_append, wordsFrom, wordsFrom]
    split
    · exact ih _
    · rw [ih]
      cases word <;> simp [consWord]

theorem words_append_cons {c : Char} (hc : isWordChar c = false) (before after : List Char) :
    words (before ++ c :: after) = words before ++ words after := wordsFrom_append_cons hc [] before after

theorem isWord_of_mem_words {text word : List Char} (h : word ∈ words text) : IsWord word := by
  have hne : word ≠ [] := by
    rw [words, wordsFrom_eq_splitOnP] at h
    simpa using (List.mem_filter.mp h).2
  refine ⟨hne, fun c hc => ?_⟩
  have hmem : c ∈ (words text).flatten := List.mem_flatten.mpr ⟨word, h, hc⟩
  rw [flatten_words] at hmem
  exact (List.mem_filter.mp hmem).2

theorem IsWord.words_eq {word : List Char} (h : IsWord word) : words word = [word] := by
  have hread := wordsFrom_append h.chars [] []
  rw [List.append_nil, List.nil_append] at hread
  rw [words, hread, wordsFrom, consWord, List.isEmpty_eq_false_iff.mpr h.ne_nil]
  rfl

theorem joined_cons_cons (word next : List Char) (rest : List (List Char)) :
    joined (word :: next :: rest) = word ++ '_' :: joined (next :: rest) := by
  simp [joined]

theorem mem_joined {ws : List (List Char)} {c : Char} (h : c ∈ joined ws) : c = '_' ∨ ∃ word ∈ ws, c ∈ word := by
  induction ws with
  | nil => cases h
  | cons word ws ih =>
    cases ws with
    | nil => exact .inr ⟨word, List.mem_singleton_self _, by simpa [joined] using h⟩
    | cons next rest =>
      rw [joined_cons_cons, List.mem_append, List.mem_cons] at h
      rcases h with hword | hunderscore | hrest
      · exact .inr ⟨word, List.mem_cons_self, hword⟩
      · exact .inl hunderscore
      · obtain hunderscore | ⟨other, hother, hc⟩ := ih hrest
        · exact .inl hunderscore
        · exact .inr ⟨other, List.mem_cons_of_mem _ hother, hc⟩

/-- Words are read back as they were joined. -/
theorem words_joined {ws : List (List Char)} (h : ∀ word ∈ ws, IsWord word) : words (joined ws) = ws := by
  induction ws with
  | nil => rfl
  | cons word ws ih =>
    rw [List.forall_mem_cons] at h
    cases ws with
    | nil => simpa [joined] using h.1.words_eq
    | cons next rest =>
      rw [joined_cons_cons, words_append_cons (by decide), h.1.words_eq, ih h.2, List.singleton_append]

theorem words_eq_nil_iff {text : List Char} : words text = [] ↔ ∀ c ∈ text, isWordChar c = false := by
  constructor
  · intro h c hc
    have hfilter : text.filter isWordChar = [] := by rw [← flatten_words, h, List.flatten_nil]
    simpa using List.filter_eq_nil_iff.mp hfilter c hc
  · intro h
    rw [List.eq_nil_iff_forall_not_mem]
    intro word hword
    have hw := isWord_of_mem_words hword
    obtain ⟨c, hc⟩ := List.exists_mem_of_ne_nil word hw.ne_nil
    have hmem : c ∈ (words text).flatten := List.mem_flatten.mpr ⟨word, hword, hc⟩
    rw [flatten_words] at hmem
    have hfalse := h c (List.mem_of_mem_filter hmem)
    rw [hw.chars c hc] at hfalse
    cases hfalse

/-! ## Case -/

/-- A way to write letters that changes at most their case, and looks at nothing but the letter. -/
structure IsCase (letter : Char → Char) : Prop where
  toLower : ∀ c, (letter c).toLower = c.toLower
  ofLower : ∀ c, letter c.toLower = letter c

theorem toNat_toLower (c : Char) :
    c.toLower.toNat = if 65 ≤ c.toNat ∧ c.toNat ≤ 90 then c.toNat + 32 else c.toNat := by
  unfold Char.toLower Char.toNat
  split <;> grind [UInt32.le_iff_toNat_le, UInt32.toNat_add]

theorem toNat_toUpper (c : Char) :
    c.toUpper.toNat = if 97 ≤ c.toNat ∧ c.toNat ≤ 122 then c.toNat - 32 else c.toNat := by
  unfold Char.toUpper Char.toNat
  split <;> grind [UInt32.le_iff_toNat_le, UInt32.toNat_add]

theorem isCase_toLower : IsCase Char.toLower := by
  have h : ∀ c : Char, c.toLower.toLower = c.toLower := by
    intro c
    rw [← Char.toNat_inj]
    grind [toNat_toLower]
  exact ⟨h, h⟩

theorem isCase_toUpper : IsCase Char.toUpper := by
  constructor <;> intro c <;> rw [← Char.toNat_inj] <;> grind [toNat_toLower, toNat_toUpper]

theorem isDigit_toLower (c : Char) : c.toLower.isDigit = c.isDigit := by
  grind [Char.isDigit, toNat_toLower, UInt32.le_iff_toNat_le, Char.toNat]

theorem isAlpha_iff {c : Char} :
    c.isAlpha = true ↔ 65 ≤ c.toNat ∧ c.toNat ≤ 90 ∨ 97 ≤ c.toNat ∧ c.toNat ≤ 122 := by
  have hupper : c.isUpper = true ↔ 65 ≤ c.toNat ∧ c.toNat ≤ 90 := decide_eq_true_iff
  have hlower : c.isLower = true ↔ 97 ≤ c.toNat ∧ c.toNat ≤ 122 :=
    Bool.and_eq_true_iff.trans (and_congr decide_eq_true_iff decide_eq_true_iff)
  rw [← hupper, ← hlower]
  exact Bool.or_eq_true_iff

theorem isAlpha_toLower (c : Char) : c.toLower.isAlpha = c.isAlpha := by
  rw [Bool.eq_iff_iff, isAlpha_iff, isAlpha_iff, toNat_toLower]
  split <;> omega

namespace IsCase

variable {letter : Char → Char}

/-- Two ways to write letters, one after the other, come to the second. -/
theorem comp (h : IsCase letter) {other : Char → Char} (hother : IsCase other) (c : Char) :
    letter (other c) = letter c := by
  rw [← h.ofLower (other c), hother.toLower, h.ofLower]

theorem isDigit (h : IsCase letter) (c : Char) : (letter c).isDigit = c.isDigit := by
  rw [← isDigit_toLower (letter c), h.toLower, isDigit_toLower]

theorem isWordChar (h : IsCase letter) (c : Char) : isWordChar (letter c) = isWordChar c := by
  have halpha : (letter c).isAlpha = c.isAlpha := by
    rw [← isAlpha_toLower (letter c), h.toLower, isAlpha_toLower]
  unfold Identifier.isWordChar Char.isAlphanum
  rw [halpha, h.isDigit]

theorem isWord_map (h : IsCase letter) {word : List Char} (hw : IsWord word) : IsWord (word.map letter) := by
  refine ⟨by simpa using hw.ne_nil, fun c hc => ?_⟩
  obtain ⟨c, hmem, rfl⟩ := List.mem_map.mp hc
  rw [h.isWordChar]
  exact hw.chars c hmem

end IsCase

/-! ## Identifiers -/

section Derive

variable {letter other : Char → Char}

/-- What an identifier is made of, in order. -/
theorem toList_derive (letter : Char → Char) (text : String) :
    ∃ front back, (front = [] ∨ front = ['_']) ∧ (back = [] ∨ back = ['_']) ∧
      startsWell (front ++ joined ((words text.toList).map (·.map letter))) = true ∧
      (derive letter text).toList = front ++ joined ((words text.toList).map (·.map letter)) ++ back := by
  have hback (whole : String) : ∃ back, (back = [] ∨ back = ['_']) ∧
      (if reserved.contains whole then whole ++ "_" else whole).toList = whole.toList ++ back := by
    split
    · exact ⟨['_'], .inr rfl, by simp⟩
    · exact ⟨[], .inl rfl, by simp⟩
  unfold derive
  generalize joined ((words text.toList).map (·.map letter)) = base
  obtain ⟨back, hb, hwhole⟩ := hback (String.ofList (if startsWell base then base else '_' :: base))
  cases hstart : startsWell base with
  | true => exact ⟨[], back, .inl rfl, hb, hstart, by simpa [hstart] using hwhole⟩
  | false => exact ⟨['_'], back, .inr rfl, hb, rfl, by simpa [hstart] using hwhole⟩

theorem IsCase.isWord_of_mem (h : IsCase letter) {text word : List Char}
    (hword : word ∈ (words text).map (·.map letter)) : IsWord word := by
  obtain ⟨plain, hplain, rfl⟩ := List.mem_map.mp hword
  exact h.isWord_map (isWord_of_mem_words hplain)

/-- An identifier has the words of its text, in the case that is asked for. -/
theorem words_derive (h : IsCase letter) (text : String) :
    words (derive letter text).toList = (words text.toList).map (·.map letter) := by
  have hwords : ∀ word ∈ (words text.toList).map (·.map letter), IsWord word := fun _ hword => h.isWord_of_mem hword
  have hunderscore (cs : List Char) : words ('_' :: cs) = words cs := words_append_cons (by decide) [] cs
  obtain ⟨front, back, hfront, hback, -, hlist⟩ := toList_derive letter text
  have hread (cs : List Char) : words (cs ++ back) = words cs := by
    rcases hback with rfl | rfl
    · rw [List.append_nil]
    · rw [words_append_cons (by decide)]
      exact List.append_nil _
  rw [hlist, hread]
  rcases hfront with rfl | rfl
  · rw [List.nil_append, words_joined hwords]
  · rw [List.singleton_append, hunderscore, words_joined hwords]

/-- Nothing but the words of a text, in some case, makes a difference to its identifier. -/
theorem derive_congr {a b : String} (h : (words a.toList).map (·.map letter) = (words b.toList).map (·.map letter)) :
    derive letter a = derive letter b := by
  unfold derive
  rw [h]

theorem map_map_words (h : IsCase letter) (hother : IsCase other) (ws : List (List Char)) :
    (ws.map (·.map other)).map (·.map letter) = ws.map (·.map letter) := by
  simp [Function.comp_def, h.comp hother]

/-- Two texts have one identifier exactly if they have the same words up to case. -/
theorem derive_eq_derive_iff (h : IsCase letter) {a b : String} : derive letter a = derive letter b ↔
    (words a.toList).map (·.map Char.toLower) = (words b.toList).map (·.map Char.toLower) := by
  constructor
  · intro heq
    have hwords : (words a.toList).map (·.map letter) = (words b.toList).map (·.map letter) := by
      rw [← words_derive h, ← words_derive h, heq]
    rw [← map_map_words isCase_toLower h, hwords, map_map_words isCase_toLower h]
  · intro heq
    refine derive_congr ?_
    rw [← map_map_words h isCase_toLower, heq, map_map_words h isCase_toLower]

/-- The identifier of an identifier in either case is the one of its text. -/
theorem derive_derive (h : IsCase letter) (hother : IsCase other) (text : String) :
    derive letter (derive other text) = derive letter text :=
  derive_congr (by rw [words_derive hother, map_map_words h hother])

end Derive

/-! ## Spelling -/

/-- The words that the generated language keeps for itself, the capitalized one included. -/
def keywords : List String := "Self" :: reserved

/-- What the generated language takes for an identifier: letters, digits and underscores that start with no digit and
are no reserved word. -/
structure Spelled (name : String) : Prop where
  chars : ∀ c ∈ name.toList, c.isAlphanum = true ∨ c = '_'
  ne_nil : name.toList ≠ []
  start : ∀ c ∈ name.toList.head?, c.isDigit = false
  free : name ∉ keywords

/-- There is a letter or a digit in a text. -/
def Worded (text : String) : Prop := ∃ c ∈ text.toList, c.isAlphanum = true

/-- What an item can be called: an identifier other than the lone underscore, by which nothing can be referred to. -/
structure IsName (name : String) : Prop extends Spelled name where
  ne_underscore : name ≠ "_"

theorem startsWell_iff {cs : List Char} : startsWell cs = true ↔ cs ≠ [] ∧ ∀ c ∈ cs.head?, c.isDigit = false := by
  cases cs <;> simp [startsWell]

section Spelled

variable {letter : Char → Char}

theorem mem_derive (h : IsCase letter) {text : String} {c : Char} (hc : c ∈ (derive letter text).toList) :
    isWordChar c = true ∨ c = '_' := by
  obtain ⟨front, back, hfront, hback, -, hlist⟩ := toList_derive letter text
  rw [hlist, List.mem_append, List.mem_append] at hc
  rcases hc with (hc | hc) | hc
  · rcases hfront with rfl | rfl
    · cases hc
    · exact .inr (List.mem_singleton.mp hc)
  · rcases mem_joined hc with hunderscore | ⟨word, hword, hmem⟩
    · exact .inr hunderscore
    · exact .inl ((h.isWord_of_mem hword).chars c hmem)
  · rcases hback with rfl | rfl
    · cases hc
    · exact .inr (List.mem_singleton.mp hc)

theorem startsWell_derive (letter : Char → Char) (text : String) : startsWell (derive letter text).toList = true := by
  obtain ⟨front, back, -, -, hstart, hlist⟩ := toList_derive letter text
  rw [hlist]
  generalize front ++ joined ((words text.toList).map (·.map letter)) = start at hstart
  cases start with
  | nil => cases hstart
  | cons c cs => exact hstart

/-- Identifiers are spelled well in a case in which no reserved word is its own identifier. -/
theorem spelled_derive (h : IsCase letter) (hfree : ∀ name ∈ keywords, derive letter name ≠ name) (text : String) :
    Spelled (derive letter text) := by
  obtain ⟨hne, hdigit⟩ := startsWell_iff.mp (startsWell_derive letter text)
  exact ⟨fun c hc => mem_derive h hc, hne, hdigit, fun hmem => hfree _ hmem (derive_derive h h text)⟩

theorem spelled_snake (text : String) : Spelled (snake text) := spelled_derive isCase_toLower (by decide +kernel) text

theorem spelled_upper (text : String) : Spelled (upper text) := spelled_derive isCase_toUpper (by decide +kernel) text

/-- The lone underscore is the identifier of the texts without letters and digits. -/
theorem derive_eq_underscore_iff (h : IsCase letter) {text : String} : derive letter text = "_" ↔ ¬Worded text := by
  have hwords : ¬Worded text ↔ words text.toList = [] := by
    rw [words_eq_nil_iff]
    simp [Worded, isWordChar]
  rw [hwords]
  constructor
  · intro heq
    have hnone : (words text.toList).map (·.map letter) = words "_".toList := by rw [← words_derive h, heq]
    exact List.map_eq_nil_iff.mp (hnone.trans (by decide))
  · intro hnone
    have hempty : words "".toList = [] := by decide
    calc derive letter text = derive letter "" := derive_congr (by rw [hnone, hempty])
      _ = "_" := rfl

theorem isName_derive_iff (h : IsCase letter) {text : String} (hspelled : Spelled (derive letter text)) :
    IsName (derive letter text) ↔ Worded text := by
  have hunderscore : derive letter text = "_" ↔ ¬Worded text := derive_eq_underscore_iff h
  constructor
  · intro hname
    by_contra hno
    exact hname.ne_underscore (hunderscore.mpr hno)
  · intro hworded
    exact ⟨hspelled, fun heq => hunderscore.mp heq hworded⟩

theorem isName_snake_iff {text : String} : IsName (snake text) ↔ Worded text :=
  isName_derive_iff isCase_toLower (spelled_snake text)

theorem isName_upper_iff {text : String} : IsName (upper text) ↔ Worded text :=
  isName_derive_iff isCase_toUpper (spelled_upper text)

end Spelled

end I2cTopology.Identifier
