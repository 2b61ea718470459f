/-!
# What is left of a text

A reader of text gives back what it read and the text behind it, together with the fact that it moved on. Loops over
readers end because of that fact.
-/

namespace I2cTopology.Toml

/-- A proper end of the text `s`: what is left once something has been read. -/
structure Rest (s : List Char) where
  text : List Char
  shorter : text.length < s.length

/-- An end of the text `s`, perhaps all of it. -/
structure End (s : List Char) where
  text : List Char
  notLonger : text.length ≤ s.length

namespace Rest

variable {s t : List Char}

/-- What is left behind the first character. -/
def tail (c : Char) (s : List Char) : Rest (c :: s) := ⟨s, Nat.lt_succ_self _⟩

/-- What is left of an end is left of the whole. -/
def ofEnd (e : End s) (r : Rest e.text) : Rest s := ⟨r.text, Nat.lt_of_lt_of_le r.shorter e.notLonger⟩

/-- What is left of what was left. -/
def trans (r : Rest s) (r' : Rest r.text) : Rest s := ⟨r'.text, Nat.lt_trans r'.shorter r.shorter⟩

/-- What is left behind the first two characters. -/
def afterTwo (a b : Char) (s : List Char) : Rest (a :: b :: s) := (tail a (b :: s)).trans (tail b s)

/-- What is left behind the first three characters. -/
def afterThree (a b c : Char) (s : List Char) : Rest (a :: b :: c :: s) := (tail a (b :: c :: s)).trans (afterTwo b c s)

/-- What is left of what was left, once an end of it is taken. -/
def andEnd (r : Rest s) (e : End r.text) : Rest s := ⟨e.text, Nat.lt_of_le_of_lt e.notLonger r.shorter⟩

/-- The text left behind a character of an end. -/
def behind {c : Char} {rest : List Char} (e : End s) (h : e.text = c :: rest) : Rest s :=
  ⟨rest, Nat.lt_of_lt_of_le (by rw [h]; exact Nat.lt_succ_self _) e.notLonger⟩

end Rest

namespace End

variable {s : List Char}

/-- All of the text. -/
def all (s : List Char) : End s := ⟨s, Nat.le_refl _⟩

/-- A proper end. -/
def ofRest (r : Rest s) : End s := ⟨r.text, Nat.le_of_lt r.shorter⟩

/-- The text behind the characters at its start that satisfy `p`. -/
def dropWhile (p : Char → Bool) (s : List Char) : End s := ⟨s.dropWhile p, (List.dropWhile_sublist p).length_le⟩

/-- The text behind the first `n` characters. -/
def drop (n : Nat) (s : List Char) : End s := ⟨s.drop n, (List.drop_sublist n s).length_le⟩

/-- An end of an end. -/
def trans (e : End s) (e' : End e.text) : End s := ⟨e'.text, Nat.le_trans e'.notLonger e.notLonger⟩

end End

end I2cTopology.Toml
