/-!
# Binary64 numbers

Time stamps, frame intervals and refresh rates are binary floating-point
numbers of 64 bits.  They are kept exactly.  Every finite one is a whole number
of *units*, a unit being `2^-1074`, the least positive value.  The two zeros are
one number here, since nothing in the console tells them apart.

Each operation computes the exact result as a ratio of units and rounds once,
to the nearest value with 53 significant bits, and to the even one of two
nearest.

* `roundDiv`: the whole number nearest to a ratio.
* `Binary64.ofRatio`: the value nearest to a ratio of units.
* `Binary64.sub`, `Binary64.lt`, `Binary64.recip`, `Binary64.ceilCount`: what
  pacing needs.
-/

namespace Chip8Console

/-! ## Rounding -/

/-- The whole number nearest to `num / den`.  A half goes to the even one. -/
def roundDiv (num den : Nat) : Nat :=
  let quotient := num / den
  let twice := 2 * (num % den)
  if twice < den then quotient
  else if den < twice then quotient + 1
  else quotient + quotient % 2

/-- A whole ratio is its own nearest whole number. -/
@[simp] theorem roundDiv_one (num : Nat) : roundDiv num 1 = num := by
  simp [roundDiv, Nat.mod_one]

/-! ## The numbers -/

/-- A binary floating-point number of 64 bits. -/
inductive Binary64 where
  /-- The outcome of a computation that has no value. -/
  | nan
  /-- Beyond every finite number, on the given side. -/
  | infinite (negative : Bool)
  /-- So many units of `2^-1074`. -/
  | finite (units : Int)
  deriving DecidableEq

namespace Binary64

/-- How many units make one. -/
def unitsPerOne : Nat := Nat.pow 2 1074

/-- The first magnitude that rounds to infinity, in units. -/
def overflowUnits : Nat := Nat.pow 2 2098

/-- The weight of the last of the 53 significant bits of a magnitude in units.
It is at least one unit, so small numbers lose precision gradually. -/
def lastBit (units : Nat) : Nat := Nat.pow 2 (units.log2 - 52)

/-- The number nearest to `num / den` units. -/
def ofRatio (negative : Bool) (num den : Nat) : Binary64 :=
  let step := lastBit (num / den)
  let units := roundDiv num (den * step) * step
  if overflowUnits ≤ units then .infinite negative
  else .finite (if negative then -units else units)

/-- The number nearest to `significand * 10 ^ exponent`. -/
def ofDecimal (significand exponent : Int) : Binary64 :=
  let magnitude := significand.natAbs * unitsPerOne
  ofRatio (significand < 0) (magnitude * Nat.pow 10 exponent.toNat) (Nat.pow 10 (-exponent).toNat)

/-- The number nearest to a whole number. -/
def ofInt (value : Int) : Binary64 := ofRatio (value < 0) (value.natAbs * unitsPerOne) 1

/-- The number is neither infinite nor the lack of one. -/
def isFinite : Binary64 → Bool
  | .finite _ => true
  | _ => false

/-- The number is below zero. -/
def isNegative : Binary64 → Bool
  | .nan => false
  | .infinite negative => negative
  | .finite units => units < 0

/-- The number with the other sign. -/
def neg : Binary64 → Binary64
  | .nan => .nan
  | .infinite negative => .infinite !negative
  | .finite units => .finite (-units)

/-- The rounded sum. -/
def add : Binary64 → Binary64 → Binary64
  | .finite a, .finite b => ofRatio (a + b < 0) (a + b).natAbs 1
  | .infinite a, .infinite b => if a = b then .infinite a else .nan
  | .infinite a, .finite _ => .infinite a
  | .finite _, .infinite b => .infinite b
  | _, _ => .nan

/-- The rounded difference. -/
def sub (a b : Binary64) : Binary64 := a.add b.neg

/-- The order of the numbers.  Nothing is less than a missing number, and a
missing number is less than nothing. -/
def lt : Binary64 → Binary64 → Bool
  | .finite a, .finite b => a < b
  | .infinite a, .infinite b => a && !b
  | .infinite a, .finite _ => a
  | .finite _, .infinite b => !b
  | _, _ => false

/-- The rounded reciprocal.  That of zero is infinite. -/
def recip : Binary64 → Binary64
  | .nan => .nan
  | .infinite _ => .finite 0
  | .finite units =>
      if units = 0 then .infinite false
      else ofRatio (units < 0) (unitsPerOne * unitsPerOne) units.natAbs

/-- The greatest count a machine word holds. -/
def maxCount : Nat := 0xffffffffffffffff

/-- The least count that is not below the number.  Counts are clipped to those
of a machine word, and a missing number counts as nothing. -/
def ceilCount : Binary64 → Nat
  | .nan => 0
  | .infinite negative => if negative then 0 else maxCount
  | .finite units => min maxCount (-(-units / (unitsPerOne : Int))).toNat

/-- A length of time of so many seconds, in whole nanoseconds.  There is none
for a missing number, a negative one, and one of `2^64` or more. -/
def nanoseconds? : Binary64 → Option Nat
  | .finite units =>
      if units < 0 || (maxCount + 1) * unitsPerOne ≤ units.toNat then none
      else some (roundDiv (units.toNat * 1000000000) unitsPerOne)
  | _ => none

/-- Only a finite number is finite. -/
theorem isFinite_iff {x : Binary64} : x.isFinite = true ↔ ∃ units, x = .finite units := by
  cases x <;> simp [isFinite]

end Binary64

end Chip8Console
