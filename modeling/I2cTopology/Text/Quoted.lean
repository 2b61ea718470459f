import I2cTopology.Text.Unprintable

/-!
# Quoted text

Text between double quotes as it stands in messages and in generated source. Quotes, backslashes and characters
without a visible form are escaped.
-/

namespace I2cTopology.Quoted

/-- The escape of a character by its number. -/
def byNumber (c : Char) : List Char := ['\x5c', 'u', '\x7b'] ++ Nat.toDigits 16 c.toNat ++ ['\x7d']

/-- A character as it stands between quotes. -/
def escape (c : Char) : List Char :=
  match c with
  | '\x00' => ['\x5c', '0']
  | '\t' => ['\x5c', 't']
  | '\r' => ['\x5c', 'r']
  | '\n' => ['\x5c', 'n']
  | '\x5c' => ['\x5c', '\x5c']
  | '\x22' => ['\x5c', '\x22']
  | c => if Unprintable.isUnprintable c then byNumber c else [c]

/-- Text between quotes. -/
def quote (s : String) : String := String.ofList (['\x22'] ++ s.toList.flatMap escape ++ ['\x22'])

end I2cTopology.Quoted
