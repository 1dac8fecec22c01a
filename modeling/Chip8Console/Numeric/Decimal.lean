/-!
# Decimal numbers and their text

A decimal is a whole coefficient times a power of ten.

Its text is positional from `10^-4` up to but not including `10^16`, and then
always has a digit on both sides of the point.  Outside that range one digit
stands before the point, a point follows only if there are more digits, and the
power of ten comes last, after an `e`.
-/

namespace Chip8Console

/-- The number `coefficient * 10 ^ exponent`. -/
structure Decimal where
  /-- The digits, read as a whole number. -/
  coefficient : Nat
  /-- The power of ten. -/
  exponent : Int

namespace Decimal

/-- The digits of the coefficient. -/
def digits (d : Decimal) : List Char := Nat.toDigits 10 d.coefficient

/-- The power of ten at the first digit. -/
def leading (d : Decimal) : Int := d.digits.length - 1 + d.exponent

/-- The text that has the point between two digits. -/
def positional (d : Decimal) : List Char :=
  let places := (-d.exponent).toNat
  let digits := d.digits ++ List.replicate d.exponent.toNat '0'
  let padded := List.replicate (places + 1 - digits.length) '0' ++ digits
  let whole := padded.take (padded.length - places)
  let fraction := padded.drop (padded.length - places)
  whole ++ '.' :: (if fraction.isEmpty then ['0'] else fraction)

/-- The text with the power of ten after an `e`. -/
def scientific (d : Decimal) : List Char :=
  let significant := (d.digits.reverse.dropWhile (· == '0')).reverse
  let fraction := significant.drop 1
  significant.take 1 ++ (if fraction.isEmpty then [] else '.' :: fraction) ++
    'e' :: (toString d.leading).toList

/-- The text of a decimal. -/
def text (d : Decimal) : String :=
  String.ofList <|
    if d.coefficient = 0 then ['0', '.', '0']
    else if -4 ≤ d.leading && d.leading < 16 then d.positional
    else d.scientific

end Decimal

end Chip8Console
