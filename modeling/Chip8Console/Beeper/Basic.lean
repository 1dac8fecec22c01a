import Chip8Console.Beeper.Speaker
import Chip8Console.Failure
import Chip8Console.Log

/-!
# The beeper

The beeper is a switch in front of a speaker.  Turning it on while it is on
does nothing, and so does turning it off while it is off.

The two directions treat a refusal differently.  If the tone does not start the
beeper stays off.  If it does not stop the beeper counts as off all the same,
and the refusal is reported.  A beeper that is put away is turned off, and then
nobody is left to hear of a refusal.
-/

namespace Chip8Console

/-- A switch in front of a speaker. -/
structure Beeper where
  speaker : Speaker := Speaker.willing
  active : Bool := false

namespace Beeper

/-- Turns the tone on. -/
def enable (b : Beeper) : Except Failure Unit × Beeper :=
  if b.active then (.ok (), b)
  else match b.speaker.beep with
    | (none, speaker) => (.ok (), ⟨speaker, true⟩)
    | (some text, speaker) => (.error (.audio text), ⟨speaker, false⟩)

/-- Turns the tone off. -/
def disable (b : Beeper) : Except Failure Unit × Beeper :=
  if b.active then
    match b.speaker.stop with
    | (none, speaker) => (.ok (), ⟨speaker, false⟩)
    | (some text, speaker) => (.error (.audio text), ⟨speaker, false⟩)
  else (.ok (), b)

/-- Puts the beeper away. -/
def close (b : Beeper) : Beeper := b.disable.2

/-- What the log says about a beeper that was in one state and is in another. -/
def changes (before after : Beeper) : List LogEntry :=
  if before.active = after.active then []
  else [⟨.debug, if after.active then "tone on" else "tone off"⟩]

/-! ## Operations as data -/

/-- Something done to a beeper. -/
inductive Op where
  | enable
  | disable
  deriving DecidableEq

/-- Carries out an operation. -/
def perform (b : Beeper) : Op → Except Failure Unit × Beeper
  | .enable => b.enable
  | .disable => b.disable

/-- The switch is off after it was turned off. -/
@[simp] theorem active_disable (b : Beeper) : b.disable.2.active = false := by
  unfold disable
  split
  · split <;> rfl
  · next off => simpa using off

end Beeper

end Chip8Console
