import Chip8Console.Numeric.Binary64
import Chip8Console.Numeric.Decimal

/-!
# The shortest decimal of a binary64 number

A number is shown with the fewest digits that read back as that number, and of
the decimals with so few digits with the nearest one.

The reals that round to a number form its *window*.  On the grid of multiples
of a power of ten only the two neighbours of the number have to be tried: if any
point of the grid lies in the window, so does one of them.  The search goes from
coarse grids to fine ones and stops at the first hit.
-/

namespace Chip8Console.Shortest

/-- The reals that round to a number, measured in halves of a unit. -/
structure Window where
  low : Nat
  high : Nat
  /-- The ends belong to the window. -/
  closed : Bool

/-- The window of a magnitude in units.  The gap below a power of two is half
the gap above it, unless both are the least gap. -/
def window (units : Nat) : Window :=
  let step := Binary64.lastBit units
  let below := if units = Nat.pow 2 52 * step && 1 < step then step / 2 else step
  ⟨2 * units - below, 2 * units + step, units / step % 2 = 0⟩

/-- The window holds `num / den` halves of a unit. -/
def Window.holds (w : Window) (num den : Nat) : Bool :=
  if w.closed then w.low * den ≤ num && num ≤ w.high * den
  else w.low * den < num && num < w.high * den

/-- The better of the two neighbours of a magnitude on the grid of `10 ^ power`,
if one of them lies in the window.  Zero is no candidate. -/
def neighbour? (units : Nat) (power : Int) : Option Nat :=
  let up := Nat.pow 10 power.toNat * Binary64.unitsPerOne
  let down := Nat.pow 10 (-power).toNat
  let below := units * down / up
  let above := below + 1
  let hits (c : Nat) : Bool := 0 < c && (window units).holds (2 * c * up) down
  match hits below, hits above with
  | true, true =>
      let shortfall := units * down - below * up
      let excess := above * up - units * down
      some (if shortfall < excess || (shortfall = excess && below % 2 = 0) then below else above)
  | true, false => some below
  | false, true => some above
  | false, false => none

/-- The first hit on `tries` grids from `10 ^ power` downwards.  When all are
used up the exact decimal is the answer. -/
def search (units : Nat) : (tries : Nat) → (power : Int) → Decimal
  | 0, _ => ⟨units * Nat.pow 5 1074, -1074⟩
  | tries + 1, power =>
      match neighbour? units power with
      | some coefficient => ⟨coefficient, power⟩
      | none => search units tries (power - 1)

/-- A power of ten above the magnitude, at most two places too high. -/
def startPower (units : Nat) : Int := ((units.log2 + 1 : Int) - 1074) * 30103 / 100000 + 1

/-- The shortest decimal of a positive magnitude in units.  Seventeen digits
always suffice, and the first grids may lie above the magnitude. -/
def decimal (units : Nat) : Decimal := search units 24 (startPower units)

end Chip8Console.Shortest

namespace Chip8Console

/-- The text of a number. -/
def Binary64.text : Binary64 → String
  | .nan => "NaN"
  | .infinite negative => if negative then "-inf" else "inf"
  | .finite units =>
      (if units < 0 then "-" else "") ++
        (if units = 0 then Decimal.text ⟨0, 0⟩ else (Shortest.decimal units.natAbs).text)

end Chip8Console
