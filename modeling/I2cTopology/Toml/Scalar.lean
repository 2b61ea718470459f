import I2cTopology.Toml.Blank
import I2cTopology.Toml.Moment
import I2cTopology.Toml.Value

/-!
# Numbers, truth values, dates and times

These values are written without quotes. Such a value reaches up to the next character that may stand behind a value,
so its text is cut off first and then read as a whole.
-/

namespace I2cTopology.Toml

/-! ## Integers -/

/-- Digits without the underscores between them. An underscore stands between two digits only. -/
def ungroup? (isDigit : Char → Bool) : List Char → Option (List Char)
  | [] => none
  | [c] => if isDigit c then some [c] else none
  | c :: '_' :: r => if isDigit c then (ungroup? isDigit r).map (c :: ·) else none
  | c :: r => if isDigit c then (ungroup? isDigit r).map (c :: ·) else none

/-- The value of a digit of up to sixteen. -/
def digitValue (c : Char) : Nat :=
  if c.isDigit then c.toNat - '0'.toNat else c.toLower.toNat - 'a'.toNat + 10

/-- The number that digits stand for. -/
def numberOf (base : Nat) (digits : List Char) : Nat := digits.foldl (fun n c => n * base + digitValue c) 0

/-- The digits of a decimal number, which has no zero in front. -/
def decimalDigits? (s : List Char) : Option (List Char) :=
  match ungroup? Char.isDigit s with
  | some ('0' :: _ :: _) => none
  | digits => digits

/-- A sign in front of a number, and the text behind it. -/
def sign : List Char → Bool × List Char
  | '+' :: r => (false, r)
  | '-' :: r => (true, r)
  | r => (false, r)

/-- An integer, if it fits into 64 bits. -/
def bounded? (n : Int) : Option Int := if -0x8000000000000000 ≤ n ∧ n ≤ 0x7FFFFFFFFFFFFFFF then some n else none

/-- An integer in decimal form, or without a sign in one of the forms `0x`, `0o` and `0b`. -/
def integer? : List Char → Option Int
  | '0' :: 'x' :: r =>
    (ungroup? (fun c => c.isDigit || ('a' ≤ c.toLower && c.toLower ≤ 'f')) r).bind fun ds => bounded? (numberOf 16 ds)
  | '0' :: 'o' :: r => (ungroup? (fun c => '0' ≤ c && c ≤ '7') r).bind fun ds => bounded? (numberOf 8 ds)
  | '0' :: 'b' :: r => (ungroup? (fun c => c == '0' || c == '1') r).bind fun ds => bounded? (numberOf 2 ds)
  | s =>
    let (negative, r) := sign s
    (decimalDigits? r).bind fun ds =>
      let n : Int := numberOf 10 ds
      bounded? (if negative then -n else n)

/-! ## Floating-point numbers -/

/-- Whether a character belongs to a group of decimal digits. -/
def isGrouped (c : Char) : Bool := c.isDigit || c == '_'

/-- An exponent, which ends a number, or nothing. -/
def exponent? : List Char → Option Int
  | [] => some 0
  | mark :: r =>
    if mark = 'e' ∨ mark = 'E' then
      let (negative, r) := sign r
      (ungroup? Char.isDigit r).map fun ds =>
        let n : Int := numberOf 10 ds
        if negative then -n else n
    else none

/-- A floating-point number with a fraction or an exponent, but not one too large for the format. -/
def float? (s : List Char) : Option Binary64 := do
  let (negative, r) := sign s
  let whole ← decimalDigits? (r.takeWhile isGrouped)
  let r := r.dropWhile isGrouped
  if r.isEmpty then none
  let (fraction, r) ← match r with
    | '.' :: r => (ungroup? Char.isDigit (r.takeWhile isGrouped)).map fun ds => (ds, r.dropWhile isGrouped)
    | _ => some ([], r)
  let exponent ← exponent? r
  let number := Binary64.ofDecimal negative (numberOf 10 (whole ++ fraction)) (exponent - fraction.length)
  if number = .infinite false then none else some number

/-- The words for infinities and for what is not a number. -/
def special? (s : List Char) : Option Binary64 :=
  let (negative, r) := sign s
  if r = ['i', 'n', 'f'] then some (.infinite negative)
  else if r = ['n', 'a', 'n'] then some .nan
  else none

/-! ## Values -/

/-- The value that a text without quotes and brackets stands for. -/
def scalarValue? (s : List Char) : Option Value :=
  if s = ['t', 'r', 'u', 'e'] then some (.boolean true)
  else if s = ['f', 'a', 'l', 's', 'e'] then some (.boolean false)
  else
    (integer? s).map .integer
      <|> (float? s).map .float
      <|> (special? s).map .float
      <|> (Moment.canonical? s).map .moment

/-- Whether a character may belong to a value without quotes and brackets. -/
def isScalar (c : Char) : Bool :=
  !(isBlank c || c == '\n' || c == '\r' || c == '#' || c == ',' || c == '\x5d' || c == '\x7d')

/-- The text of such a value and what is left behind it. -/
def scalarText (s : List Char) : List Char × End s := (s.takeWhile isScalar, .dropWhile isScalar s)

/-- A value without quotes and brackets. A blank may stand between a date and its time. -/
def readScalar : (s : List Char) → Option (Value × Rest s)
  | [] => none
  | c :: s =>
    let (text, e) := scalarText s
    let rest := (Rest.tail c s).andEnd e
    let first := c :: text
    match h : e.text with
    | ' ' :: d :: _ =>
      if Moment.isDate first && d.isDigit then
        let behind := (Rest.tail c s).andEnd (.ofRest (Rest.behind e h))
        let (time, e') := scalarText behind.text
        (scalarValue? (first ++ 'T' :: time)).map fun v => (v, behind.andEnd e')
      else (scalarValue? first).map fun v => (v, rest)
    | _ => (scalarValue? first).map fun v => (v, rest)

end I2cTopology.Toml
