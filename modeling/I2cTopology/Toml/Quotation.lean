import I2cTopology.Toml.Blank

/-!
# Quoted strings

Strings between double quotes have escapes, strings between single quotes have none. Either may run over several
lines between three quotes; there a line break right behind the opening quotes does not count, and up to two quotes
may stand directly before the closing ones.
-/

namespace I2cTopology.Toml

/-! ## Escapes -/

/-- The value of a hexadecimal digit. -/
def hexDigit? (c : Char) : Option Nat :=
  if '0' ≤ c ∧ c ≤ '9' then some (c.toNat - '0'.toNat)
  else if 'a' ≤ c ∧ c ≤ 'f' then some (c.toNat - 'a'.toNat + 10)
  else if 'A' ≤ c ∧ c ≤ 'F' then some (c.toNat - 'A'.toNat + 10)
  else none

/-- The number that hexadecimal digits stand for. -/
def hexNumber? (ds : List Char) : Option Nat := ds.foldlM (fun n d => (hexDigit? d).map (16 * n + ·)) 0

/-- The character with a number, if there is one. -/
def scalar? (n : Nat) : Option Char := if n.isValidChar then some (Char.ofNat n) else none

/-- The character given by its number in `count` digits. -/
def numbered? (count : Nat) (s : List Char) : Option (Char × End s) :=
  let digits := s.take count
  if digits.length < count then none
  else ((hexNumber? digits).bind scalar?).map fun c => (c, .drop count s)

/-- The character that an escape stands for, read behind the backslash. -/
def escape? : (s : List Char) → Option (Char × Rest s)
  | 'b' :: r => some ('\x08', .tail _ r)
  | 't' :: r => some ('\t', .tail _ r)
  | 'n' :: r => some ('\n', .tail _ r)
  | 'f' :: r => some ('\x0c', .tail _ r)
  | 'r' :: r => some ('\r', .tail _ r)
  | '\x22' :: r => some ('\x22', .tail _ r)
  | '\x5c' :: r => some ('\x5c', .tail _ r)
  | 'u' :: r => (numbered? 4 r).map fun (c, e) => (c, (Rest.tail _ r).andEnd e)
  | 'U' :: r => (numbered? 8 r).map fun (c, e) => (c, (Rest.tail _ r).andEnd e)
  | _ => none

/-! ## Strings of one line -/

/-- Puts a character in front of what is read behind it. -/
def cons? {s : List Char} (c : Char) (r : Rest s) (more : Option (List Char × Rest r.text)) :
    Option (List Char × Rest s) :=
  more.map fun (cs, r') => (c :: cs, r.trans r')

/-- A string between double quotes, read behind the opening one. -/
def readBasic (s : List Char) : Option (List Char × Rest s) :=
  match s with
  | [] => none
  | '\x22' :: r => some ([], .tail _ r)
  | '\x5c' :: r =>
    match escape? r with
    | none => none
    | some (c, t) => cons? c ((Rest.tail _ r).trans t) (readBasic t.text)
  | c :: r => if isPlain c then cons? c (.tail _ r) (readBasic r) else none
termination_by s.length
decreasing_by
  · exact ((Rest.tail _ r).trans t).shorter
  · exact (Rest.tail _ r).shorter

/-- A string between single quotes, read behind the opening one. -/
def readLiteral : (s : List Char) → Option (List Char × Rest s)
  | '\x27' :: r => some ([], .tail _ r)
  | c :: r => if isPlain c then cons? c (.tail _ r) (readLiteral r) else none
  | [] => none

/-! ## Strings of several lines -/

/-- The quotes that belong to a string that ends here, read behind three closing quotes: as many as follow, but at most
two. -/
def closingQuotes (quote : Char) : (s : List Char) → List Char × End s
  | a :: b :: r =>
    if a = quote ∧ b = quote then ([quote, quote], .ofRest (.afterTwo a b r))
    else if a = quote then ([quote], .ofRest (.tail a (b :: r)))
    else ([], .all _)
  | [a] => if a = quote then ([quote], .ofRest (.tail a [])) else ([], .all _)
  | [] => ([], .all _)

/-- The text behind a backslash that ends a line: blanks, a line break, and all blanks and line breaks behind it. -/
def continuation? (s : List Char) : Option (Rest s) :=
  let blank := skipBlanks s
  (lineBreak? blank.text).map fun r => .ofEnd blank (r.andEnd (skipWhite r.text))

/-- A string between three double quotes, read behind the opening ones. -/
def readMultiBasic (s : List Char) : Option (List Char × Rest s) :=
  match s with
  | [] => none
  | '\x22' :: '\x22' :: '\x22' :: r =>
    let (quotes, e) := closingQuotes '\x22' r
    some (quotes, (Rest.afterThree _ _ _ r).andEnd e)
  | '\x5c' :: r =>
    match continuation? r with
    | some t => (readMultiBasic t.text).map fun (cs, r') => (cs, ((Rest.tail _ r).trans t).trans r')
    | none =>
      match escape? r with
      | none => none
      | some (c, t) => cons? c ((Rest.tail _ r).trans t) (readMultiBasic t.text)
  | '\n' :: r => cons? '\n' (.tail _ r) (readMultiBasic r)
  | '\r' :: '\n' :: r => cons? '\n' (.afterTwo _ _ r) (readMultiBasic r)
  | c :: r => if isPlain c then cons? c (.tail _ r) (readMultiBasic r) else none
termination_by s.length
decreasing_by
  · exact ((Rest.tail _ r).trans t).shorter
  · exact ((Rest.tail _ r).trans t).shorter
  · exact (Rest.tail _ r).shorter
  · exact (Rest.afterTwo _ _ r).shorter
  · exact (Rest.tail _ r).shorter

/-- A string between three single quotes, read behind the opening ones. -/
def readMultiLiteral : (s : List Char) → Option (List Char × Rest s)
  | '\x27' :: '\x27' :: '\x27' :: r =>
    let (quotes, e) := closingQuotes '\x27' r
    some (quotes, (Rest.afterThree _ _ _ r).andEnd e)
  | '\n' :: r => cons? '\n' (.tail _ r) (readMultiLiteral r)
  | '\r' :: '\n' :: r => cons? '\n' (.afterTwo _ _ r) (readMultiLiteral r)
  | c :: r => if isPlain c then cons? c (.tail _ r) (readMultiLiteral r) else none
  | [] => none

/-- A string of several lines, whose first line break does not count. -/
def readMulti (body : (s : List Char) → Option (List Char × Rest s)) (s : List Char) :
    Option (List Char × Rest s) :=
  match lineBreak? s with
  | some r => (body r.text).map fun (cs, r') => (cs, r.trans r')
  | none => body s

/-- A string of one line with its quotes. -/
def readSingleLine? : (s : List Char) → Option (String × Rest s)
  | '\x22' :: r => (readBasic r).map fun (cs, r') => (String.ofList cs, (Rest.tail _ r).trans r')
  | '\x27' :: r => (readLiteral r).map fun (cs, r') => (String.ofList cs, (Rest.tail _ r).trans r')
  | _ => none

/-- A string with its quotes. -/
def readString? : (s : List Char) → Option (String × Rest s)
  | '\x22' :: '\x22' :: '\x22' :: r =>
    (readMulti readMultiBasic r).map fun (cs, r') =>
      (String.ofList cs, (Rest.afterThree _ _ _ r).trans r')
  | '\x27' :: '\x27' :: '\x27' :: r =>
    (readMulti readMultiLiteral r).map fun (cs, r') =>
      (String.ofList cs, (Rest.afterThree _ _ _ r).trans r')
  | s => readSingleLine? s

end I2cTopology.Toml
