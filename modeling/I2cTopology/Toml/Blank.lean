import I2cTopology.Toml.Rest

/-!
# Blanks, comments and line breaks
-/

namespace I2cTopology.Toml

/-- A space or a tabulator. -/
def isBlank (c : Char) : Bool := c == ' ' || c == '\t'

/-- The characters that may stand in comments and, quotes and backslashes apart, in strings of one line. -/
def isPlain (c : Char) : Bool := c == '\t' || (0x20 ≤ c.toNat && c != '\x7f')

/-- The text behind blanks. -/
def skipBlanks (s : List Char) : End s := .dropWhile isBlank s

/-- The text behind a line break. -/
def lineBreak? : (s : List Char) → Option (Rest s)
  | '\n' :: r => some (.tail _ r)
  | '\r' :: '\n' :: r => some (.afterTwo _ _ r)
  | _ => none

/-- The text behind a comment, if there is one. -/
def skipComment : (s : List Char) → End s
  | '#' :: r => .ofRest ((Rest.tail _ r).andEnd (.dropWhile isPlain r))
  | s => .all s

/-- The text behind the end of a line: blanks, perhaps a comment, and a line break or the end of the text. -/
def lineEnd? (s : List Char) : Option (End s) :=
  let e := (skipBlanks s).trans (skipComment (skipBlanks s).text)
  if e.text.isEmpty then some e else (lineBreak? e.text).map fun r => e.trans (.ofRest r)

/-- The text behind blanks, comments and line breaks, wherever these may stand between values. -/
def skipTrivia (s : List Char) : Option (End s) :=
  let blank := skipBlanks s
  match blank.text with
  | '#' :: _ | '\n' :: _ | '\r' :: _ =>
    let e := blank.trans (skipComment blank.text)
    match lineBreak? e.text with
    | none => none
    | some r => (skipTrivia r.text).map fun t => e.trans ((End.ofRest r).trans t)
  | _ => some blank
termination_by s.length
decreasing_by exact Nat.lt_of_lt_of_le r.shorter e.notLonger

/-- The text behind blanks and line breaks. -/
def skipWhite : (s : List Char) → End s
  | ' ' :: r => (End.ofRest (.tail _ r)).trans (skipWhite r)
  | '\t' :: r => (End.ofRest (.tail _ r)).trans (skipWhite r)
  | '\n' :: r => (End.ofRest (.tail _ r)).trans (skipWhite r)
  | '\r' :: '\n' :: r => (End.ofRest (.afterTwo _ _ r)).trans (skipWhite r)
  | s => .all s

end I2cTopology.Toml
