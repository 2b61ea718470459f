/-!
# Binary floating-point numbers of 64 bits

`Binary64.ofDecimal` rounds a decimal to the nearest number of the format, and `Binary64.text` writes a number with the
fewest digits that read back. Both calculate with integers only.
-/

namespace I2cTopology

/-- A number of the 64-bit binary format. A finite one has the size `mantissa * 2 ^ exponent`. -/
inductive Binary64 where
  | finite (negative : Bool) (mantissa : Nat) (exponent : Int)
  | infinite (negative : Bool)
  | nan
deriving DecidableEq

namespace Binary64

/-- A fraction as numerator and denominator. -/
abbrev Ratio := Nat × Nat

/-- The fraction `n * base ^ e`. -/
def power (n base : Nat) (e : Int) : Ratio :=
  if 0 ≤ e then (n * base.pow e.toNat, 1) else (n, base.pow (-e).toNat)

/-- The fraction `r / base ^ e`. -/
def scaleDown (r : Ratio) (base : Nat) (e : Int) : Ratio :=
  if 0 ≤ e then (r.1, r.2 * base.pow e.toNat) else (r.1 * base.pow (-e).toNat, r.2)

/-- Which neighbour a half goes to. -/
inductive Tie where
  | even
  | upper
deriving DecidableEq

/-- Whether a half above `q` goes up. -/
def Tie.goesUp (tie : Tie) (q : Nat) : Bool :=
  match tie with
  | .even => q % 2 == 1
  | .upper => true

/-- The whole number nearest to a fraction. -/
def nearest (tie : Tie) (r : Ratio) : Nat :=
  let q := r.1 / r.2
  let rest := 2 * (r.1 % r.2)
  if r.2 < rest || (rest == r.2 && tie.goesUp q) then q + 1 else q

/-- The exponent of the smallest step of the format. -/
def minExponent : Int := -1074

/-- The exponent of the largest step of the format. -/
def maxExponent : Int := 971

/-- The smallest mantissa with all 53 binary digits. -/
def fullMantissa : Nat := 0x10000000000000

/-- Mantissas are below this. -/
def mantissaLimit : Nat := 0x20000000000000

/-- The number of the format nearest to the fraction `r`, which is not zero. A half goes to the even mantissa. -/
def ofRatio (negative : Bool) (r : Ratio) : Binary64 :=
  let guess : Int := (Nat.log2 r.1 : Int) - (Nat.log2 r.2 : Int) - 53
  let fits (e : Int) : Bool :=
    let s := scaleDown r 2 e
    s.1 < s.2 * mantissaLimit
  let exponent := max minExponent (if fits guess then guess else guess + 1)
  let mantissa := nearest .even (scaleDown r 2 exponent)
  let (mantissa, exponent) :=
    if mantissa = mantissaLimit then (fullMantissa, exponent + 1) else (mantissa, exponent)
  if maxExponent < exponent then .infinite negative else .finite negative mantissa exponent

/-- The number nearest to `digits * 10 ^ exponent`. Sizes far outside the format are settled by their number of
digits. -/
def ofDecimal (negative : Bool) (digits : Nat) (exponent : Int) : Binary64 :=
  let size := ((Nat.toDigits 10 digits).length : Int) + exponent
  if digits = 0 || size < -400 then .finite negative 0 minExponent
  else if 400 < size then .infinite negative
  else ofRatio negative (power digits 10 exponent)

/-! ## Shortest text -/

/-- Whether `r < s`. -/
def Ratio.lt (r s : Ratio) : Bool := r.1 * s.2 < s.1 * r.2

/-- The largest `e` with `10 ^ e ≤ r`, for a fraction that is not zero. -/
def decimalExponent (r : Ratio) : Int :=
  let e : Int := ((Nat.toDigits 10 r.1).length : Int) - ((Nat.toDigits 10 r.2).length : Int)
  if Ratio.lt r (power 1 10 e) then e - 1 else e

/-- The ends of the interval of fractions that round to `mantissa * 2 ^ exponent`. The lower half of it is narrower
where the step of the format changes. -/
def interval (mantissa : Nat) (exponent : Int) : Ratio × Ratio :=
  let low := if mantissa = fullMantissa && minExponent < exponent then 4 * mantissa - 1 else 4 * mantissa - 2
  (power low 2 (exponent - 2), power (4 * mantissa + 2) 2 (exponent - 2))

/-- The digits and the decimal exponent with the fewest digits that round to `mantissa * 2 ^ exponent`, tried from
`17 - fuel` digits on; of two such decimals the nearer one, and of two equally near ones the larger. -/
def shortestFrom (mantissa : Nat) (exponent : Int) : Nat → Nat × Int
  | 0 => (0, 0)
  | fuel + 1 =>
    let value := power mantissa 2 exponent
    let (low, high) := interval mantissa exponent
    let place := decimalExponent value - (16 - fuel : Int)
    let inside (n : Nat) : Bool :=
      let c := power n 10 place
      if mantissa % 2 = 0 then !Ratio.lt c low && !Ratio.lt high c else Ratio.lt low c && Ratio.lt c high
    let s := scaleDown value 10 place
    let below := s.1 / s.2
    let near := nearest .upper s
    let far := if near = below then below + 1 else below
    if inside near then (near, place)
    else if inside far then (far, place)
    else shortestFrom mantissa exponent fuel

/-- A decimal written with a point and without an exponent; a whole number has one zero behind the point. -/
def positional (digits : Nat) (place : Int) : String :=
  let ds := Nat.toDigits 10 digits
  let zeros := (ds.reverse.takeWhile (· == '0')).length
  let ds := ds.take (ds.length - zeros)
  let place := place + zeros
  if 0 ≤ place then String.ofList (ds ++ List.replicate place.toNat '0') ++ ".0"
  else
    let behind := (-place).toNat
    let ds := List.replicate (behind + 1 - ds.length) '0' ++ ds
    String.ofList (ds.take (ds.length - behind)) ++ "." ++ String.ofList (ds.drop (ds.length - behind))

/-- A number with the fewest digits that read back. -/
def text : Binary64 → String
  | .nan => "NaN"
  | .infinite negative => if negative then "-inf" else "inf"
  | .finite negative mantissa exponent =>
    let sign := if negative then "-" else ""
    if mantissa = 0 then sign ++ "0.0"
    else
      let (digits, place) := shortestFrom mantissa exponent 17
      sign ++ positional digits place

end Binary64

end I2cTopology
