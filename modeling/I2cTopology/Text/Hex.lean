/-!
# Hexadecimal numbers

Numbers with the mark `0x`, lower-case digits and zeros up to a least number of digits.
-/

namespace I2cTopology.Hex

/-- The digits of `n`, at least `width` of them. -/
def digits (width n : Nat) : List Char :=
  let ds := Nat.toDigits 16 n
  List.replicate (width - ds.length) '0' ++ ds

/-- A number of at least `width` digits behind `0x`. -/
def number (width n : Nat) : String := "0x" ++ String.ofList (digits width n)

/-- A byte as `0x` and two digits. -/
def byte (b : UInt8) : String := number 2 b.toNat

/-- A word of 16 bits as `0x` and four digits. -/
def word (w : BitVec 16) : String := number 4 w.toNat

end I2cTopology.Hex
