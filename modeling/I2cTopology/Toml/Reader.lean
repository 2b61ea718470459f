import I2cTopology.Toml.Quotation
import I2cTopology.Toml.Scalar
import I2cTopology.Toml.Table

/-!
# Reading TOML

`Toml.read?` reads a text of TOML 1.0 as a table. Values nest and keys have parts up to a fixed depth.
-/

namespace I2cTopology.Toml

/-- Values may be nested, and keys may have parts, up to this number. -/
def maxDepth : Nat := 79

/-! ## Keys -/

/-- The characters of a name without quotes. -/
def isBare (c : Char) : Bool := c.isAlphanum || c == '-' || c == '_'

/-- One part of a key. -/
def readName (s : List Char) : Option (String × Rest s) :=
  match s with
  | [] => none
  | c :: r =>
    if c = '\x22' ∨ c = '\x27' then readSingleLine? (c :: r)
    else if isBare c then
      some (String.ofList (c :: r.takeWhile isBare), (Rest.tail c r).andEnd (.dropWhile isBare r))
    else none

/-- The parts of a key with blanks around them, and what is left behind them. -/
def readParts (s : List Char) : Option (List String × Rest s) :=
  let e := skipBlanks s
  match readName e.text with
  | none => none
  | some (name, r) =>
    let r := Rest.ofEnd e r
    let r := r.andEnd (skipBlanks r.text)
    match h : r.text with
    | '.' :: t =>
      (readParts t).map fun (names, r') => (name :: names, r.trans ((Rest.behind (.all r.text) h).trans r'))
    | _ => some ([name], r)
termination_by s.length
decreasing_by
  have := r.shorter
  simp [h] at this
  omega

/-- A key with the blanks around it. -/
def readKey (s : List Char) : Option (Key × Rest s) :=
  match readParts s with
  | none => none
  | some (names, r) => if maxDepth < names.length then none else (Key.ofParts? names).map fun key => (key, r)

/-! ## Values -/

mutual

/-- A value; `depth` more levels of nesting are allowed. -/
def readValue (depth : Nat) (s : List Char) : Option (Value × Rest s) :=
  match s with
  | [] => none
  | c :: r =>
    if c = '\x22' ∨ c = '\x27' then (readString? (c :: r)).map fun (text, t) => (.string text, t)
    else if c = '\x5b' then
      match depth with
      | 0 => none
      | depth + 1 => (readElements depth r).map fun (vs, t) => (.array vs, (Rest.tail c r).trans t)
    else if c = '\x7b' then
      match depth with
      | 0 => none
      | depth + 1 =>
        let e := skipBlanks r
        match h : e.text with
        | '\x7d' :: _ => some (.table [], (Rest.tail c r).trans (Rest.behind e h))
        | _ =>
          match readPairs depth r with
          | none => none
          | some (pairs, t) =>
            (Table.addAll [] pairs).map fun table => (.table (entriesToValues table), (Rest.tail c r).trans t)
    else readScalar (c :: r)
termination_by (s.length, 0)

/-- The elements of an array up to its closing bracket, read behind the opening one or behind a comma. -/
def readElements (depth : Nat) (s : List Char) : Option (List Value × Rest s) :=
  match skipTrivia s with
  | none => none
  | some e =>
    match h : e.text with
    | '\x5d' :: _ => some ([], Rest.behind e h)
    | _ =>
      match readValue depth e.text with
      | none => none
      | some (v, r) =>
        match skipTrivia r.text with
        | none => none
        | some e' =>
          let r := (Rest.ofEnd e r).andEnd e'
          match h : r.text with
          | '\x5d' :: _ => some ([v], r.trans (Rest.behind (.all r.text) h))
          | ',' :: t =>
            (readElements depth t).map fun (vs, r') =>
              (v :: vs, r.trans ((Rest.behind (.all r.text) h).trans r'))
          | _ => none
termination_by (s.length, 1)
decreasing_by
  · have := e.notLonger
    simp only [Prod.lex_def]
    omega
  · have := r.shorter
    simp only [h, List.length_cons] at this
    simp only [Prod.lex_def]
    omega

/-- The pairs of an inline table up to its closing brace, read behind the opening one or behind a comma. -/
def readPairs (depth : Nat) (s : List Char) : Option (List (Key × Value) × Rest s) :=
  match readKey s with
  | none => none
  | some (key, r) =>
    match h : r.text with
    | '=' :: t =>
      let r := r.trans (Rest.behind (.all r.text) h)
      let e := skipBlanks r.text
      match readValue depth e.text with
      | none => none
      | some (v, r') =>
        let r := (r.andEnd e).trans r'
        let r := r.andEnd (skipBlanks r.text)
        match h : r.text with
        | '\x7d' :: _ => some ([(key, v)], r.trans (Rest.behind (.all r.text) h))
        | ',' :: t =>
          (readPairs depth t).map fun (ps, r') =>
            ((key, v) :: ps, r.trans ((Rest.behind (.all r.text) h).trans r'))
        | _ => none
    | _ => none
termination_by (s.length, 1)
decreasing_by
  · have := (r.andEnd e).shorter
    simp only [Prod.lex_def]
    exact Or.inl this
  · have := r.shorter
    simp only [h, List.length_cons] at this
    simp only [Prod.lex_def]
    omega

end

/-! ## Lines -/

/-- A line that says something. -/
inductive Line where
  | pair (key : Key) (value : Value)
  | table (key : Key)
  | element (key : Key)

/-- A key with its value up to the end of the line. -/
def readPair (s : List Char) : Option (Line × Rest s) :=
  match readKey s with
  | none => none
  | some (key, r) =>
    match h : r.text with
    | '=' :: _ =>
      let r := r.trans (Rest.behind (.all r.text) h)
      let r := r.andEnd (skipBlanks r.text)
      match readValue maxDepth r.text with
      | none => none
      | some (v, r') =>
        let r := r.trans r'
        (lineEnd? r.text).map fun e => (.pair key v, r.andEnd e)
    | _ => none

/-- A header up to the end of its line, read behind its opening brackets. -/
def readHeader (close : List Char) (line : Key → Line) (s : List Char) : Option (Line × Rest s) :=
  match readKey s with
  | none => none
  | some (key, r) =>
    if close.isPrefixOf r.text then
      let r := r.andEnd (.drop close.length r.text)
      (lineEnd? r.text).map fun e => (line key, r.andEnd e)
    else none

/-- The lines of a text that say something. -/
def readLines (s : List Char) : Option (List Line) :=
  let e := skipBlanks s
  match e.text with
  | [] => some []
  | c :: _ =>
    if c = '\n' ∨ c = '\r' ∨ c = '#' then
      let e' := skipComment e.text
      if e'.text.isEmpty then some []
      else
        match lineBreak? e'.text with
        | none => none
        | some t => readLines t.text
    else
      match readLine e.text with
      | none => none
      | some (line, t) => (readLines t.text).map (line :: ·)
termination_by s.length
decreasing_by
  · exact Nat.lt_of_lt_of_le t.shorter (Nat.le_trans e'.notLonger e.notLonger)
  · exact Nat.lt_of_lt_of_le t.shorter e.notLonger
where
  /-- A line that says something, with its end. -/
  readLine : (s : List Char) → Option (Line × Rest s)
    | '\x5b' :: '\x5b' :: r =>
      (readHeader ['\x5d', '\x5d'] .element r).map fun (line, t) => (line, (Rest.afterTwo _ _ r).trans t)
    | '\x5b' :: r => (readHeader ['\x5d'] .table r).map fun (line, t) => (line, (Rest.tail _ r).trans t)
    | s => readPair s

/-! ## Texts -/

/-- The pairs before the first header, and every header with the pairs below it. -/
def sections : List Line → List (Key × Value) × List (Line × List (Key × Value))
  | [] => ([], [])
  | .pair key value :: lines =>
    let (pairs, rest) := sections lines
    ((key, value) :: pairs, rest)
  | header :: lines =>
    let (pairs, rest) := sections lines
    ([], (header, pairs) :: rest)

/-- Adds what stands below a header. -/
def addSection (t : Table) : Line × List (Key × Value) → Option Table
  | (.table key, pairs) => t.addTable key pairs
  | (.element key, pairs) => t.addElement key pairs
  | (.pair key value, pairs) => t.addAll ((key, value) :: pairs)

/-- The entries of the table that a text stands for. A byte order mark in front of the text does not count. -/
def read? (text : String) : Option (List (String × Value)) := do
  let s := match text.toList with
    | '\ufeff' :: s => s
    | s => s
  let lines ← readLines s
  let (pairs, rest) := sections lines
  let table ← Table.addAll [] pairs
  let table ← rest.foldlM addSection table
  some (entriesToValues table)

end I2cTopology.Toml
