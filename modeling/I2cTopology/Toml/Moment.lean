/-!
# Dates and times

A date is `1979-05-27`, a time `07:32:00` with perhaps a fraction of a second, and a date with a time may name an
offset. The canonical form has a `T` between date and time, at most nine digits of a fraction without zeros at its
end, and `Z` or a signed offset.
-/

namespace I2cTopology.Toml.Moment

/-- The number that two digits stand for and the text behind them. -/
def twoDigits? : List Char → Option (Nat × List Char)
  | a :: b :: r =>
    if a.isDigit && b.isDigit then some (10 * (a.toNat - '0'.toNat) + (b.toNat - '0'.toNat), r) else none
  | _ => none

/-- The number of days in a month. -/
def daysIn (year month : Nat) : Nat :=
  if month = 2 then if year % 4 = 0 ∧ (year % 100 ≠ 0 ∨ year % 400 = 0) then 29 else 28
  else if month = 4 ∨ month = 6 ∨ month = 9 ∨ month = 11 then 30
  else 31

/-- A date in front of other text. -/
def date? (s : List Char) : Option (List Char × List Char) := do
  let (century, r) ← twoDigits? s
  let (year, r) ← twoDigits? r
  let '-' :: r := r | none
  let (month, r) ← twoDigits? r
  let '-' :: r := r | none
  let (day, r) ← twoDigits? r
  if 1 ≤ month ∧ month ≤ 12 ∧ 1 ≤ day ∧ day ≤ daysIn (100 * century + year) month then some (s.take 10, r) else none

/-- The fraction of a second in front of other text, in canonical form. -/
def fraction? : List Char → Option (List Char × List Char)
  | '.' :: r =>
    let digits := r.takeWhile Char.isDigit
    let kept := ((digits.take 9).reverse.dropWhile (· == '0')).reverse
    if digits.isEmpty then none
    else some (if kept.isEmpty then [] else '.' :: kept, r.dropWhile Char.isDigit)
  | r => some ([], r)

/-- A time in front of other text. -/
def time? (s : List Char) : Option (List Char × List Char) := do
  let (hour, r) ← twoDigits? s
  let ':' :: r := r | none
  let (minute, r) ← twoDigits? r
  let ':' :: r := r | none
  let (second, r) ← twoDigits? r
  let (fraction, r) ← fraction? r
  if hour ≤ 23 ∧ minute ≤ 59 ∧ second ≤ 60 then some (s.take 8 ++ fraction, r) else none

/-- An offset, which ends the text, or nothing. -/
def offset? : List Char → Option (List Char)
  | [] => some []
  | ['Z'] | ['z'] => some ['Z']
  | sign :: r => do
    let (hours, r') ← twoDigits? r
    let ':' :: r' := r' | none
    let (minutes, r') ← twoDigits? r'
    if r' = [] ∧ (sign = '+' ∨ sign = '-') ∧ hours ≤ 23 ∧ minutes ≤ 59 then
      some ((if hours = 0 ∧ minutes = 0 then '+' else sign) :: r)
    else none

/-- Whether a text is a date without a time. -/
def isDate (s : List Char) : Bool :=
  match date? s with
  | some (_, []) => true
  | _ => false

/-- The canonical form of a text that is a date, a time, or both. -/
def canonical? (s : List Char) : Option String :=
  match date? s with
  | some (date, []) => some (String.ofList date)
  | some (date, mark :: r) =>
    if mark = 'T' ∨ mark = 't' then do
      let (time, r) ← time? r
      let offset ← offset? r
      some (String.ofList (date ++ 'T' :: time ++ offset))
    else none
  | none =>
    match time? s with
    | some (time, []) => some (String.ofList time)
    | _ => none

end I2cTopology.Toml.Moment
