import Chip8Console.Keypad.Keymap
import Chip8Console.Numeric.Binary64

/-!
# Configuration

What can be chosen when a console is built.
-/

namespace Chip8Console

/-- How many cycles a frame may have. -/
inductive Budget where
  /-- One for each millisecond since the last frame, so a late frame catches up. -/
  | elapsed
  /-- The same number for every frame. -/
  | fixed (cycles : UInt32)
  deriving DecidableEq

/-- The cycles of a frame that comes so many milliseconds after the last. -/
def Budget.cycles : Budget → (passed : Binary64) → Nat
  | .elapsed, passed => passed.ceilCount
  | .fixed cycles, _ => cycles.toNat

/-- The usual time from frame to frame, in milliseconds. -/
def defaultInterval : Binary64 := Binary64.ofInt 16

/-- The choices for a console. -/
structure Config where
  /-- The least time from frame to frame, in milliseconds. -/
  interval : Binary64 := defaultInterval
  /-- How many cycles a frame may have. -/
  budget : Budget := .elapsed
  /-- Which physical key stands for which id. -/
  keymap : List KeyEntry := Keymap.conventional.toList
  /-- The values that a core shows go to the log. -/
  diagnostics : Bool := false
  /-- How often the screen is refreshed, in hertz. -/
  refreshRate : Binary64 := Binary64.ofInt 60
  /-- How long a key typed at a terminal counts as held, in milliseconds. -/
  keyHold : Nat := 150

end Chip8Console
