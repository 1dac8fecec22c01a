import Chip8Console.Config
import Chip8Console.Core

/-!
# Pacing

The console is called at every refresh of the display, with a time stamp in
milliseconds.  The *pacer* decides which refreshes process a frame.

* The first one only records its time.
* After that a frame is processed once the interval has passed since the last
  recorded time, and its own time is recorded.
* A time stamp that is not finite is ignored.

A frame is one tick of the timers, then cycles until the budget is used up or
the core asks to stop, then the presentation of the back plane.  A failure ends
it at once, and nothing is presented.
-/

namespace Chip8Console

universe u

/-- What a refresh came to. -/
inductive RefreshOutcome where
  /-- The first refresh of a session recorded its time. -/
  | started
  /-- It was too early for a frame. -/
  | waiting
  /-- A frame was processed, with so many cycles.  The last of them asked to
  stop if `early` is true. -/
  | frame (cycles : Nat) (early : Bool)
  /-- There is no session. -/
  | stopped
  deriving DecidableEq

/-! ## One frame -/

namespace Machine

variable {σ : Type u}

/-- Presents the back plane. -/
def present (m : Machine σ) : Machine σ :=
  { m with devices := { m.devices with screen := m.devices.screen.present } }

variable [Interpreter σ]

/-- Runs cycles until `left` more have run or the core asks to stop.  The answer
counts the cycles on from `ran` and says whether the core asked. -/
def runCycles : (left ran : Nat) → Machine σ → Except Failure (Nat × Bool) × Machine σ
  | 0, ran, m => (.ok (ran, false), m)
  | left + 1, ran, m =>
      match m.enter Interpreter.cycle with
      | (.ok false, m) => runCycles left (ran + 1) m
      | (.ok true, m) => (.ok (ran + 1, true), m)
      | (.error failure, m) => (.error failure, m)

/-- Processes one frame with the given budget of cycles. -/
def frame (m : Machine σ) (budget : Nat) : Except Failure RefreshOutcome × Machine σ :=
  match m.enter Interpreter.tick with
  | (.error failure, m) => (.error failure, m)
  | (.ok (), m) =>
      match m.runCycles budget 0 with
      | (.error failure, m) => (.error failure, m)
      | (.ok (cycles, early), m) => (.ok (.frame cycles early), m.present)

end Machine

/-! ## The pacer -/

/-- When the last frame was, and what the next one needs. -/
structure Pacer where
  /-- The last recorded time.  There is none before the first refresh. -/
  lastTime : Option Binary64 := none
  /-- The least time from frame to frame. -/
  interval : Binary64
  /-- How many cycles a frame may have. -/
  budget : Budget

namespace Pacer

/-- The pacer of a configuration, before the first refresh. -/
def ofConfig (config : Config) : Pacer :=
  { interval := config.interval, budget := config.budget }

/-- No time has been recorded. -/
def isIdle (p : Pacer) : Bool := p.lastTime.isNone

/-- Forgets the recorded time. -/
def cancel (p : Pacer) : Pacer := { p with lastTime := none }

/-- Handles one refresh at the given time. -/
def refresh {σ : Type u} [Interpreter σ] (p : Pacer) (time : Binary64) (m : Machine σ) :
    Except Failure RefreshOutcome × Pacer × Machine σ :=
  if time.isFinite then
    match p.lastTime with
    | none => (.ok .started, { p with lastTime := some time }, m)
    | some last =>
        let elapsed := time.sub last
        if elapsed.lt p.interval then (.ok .waiting, p, m)
        else
          let (outcome, m) := m.frame (p.budget.cycles elapsed)
          (outcome, { p with lastTime := some time }, m)
  else (.ok .waiting, p, m)

end Pacer

end Chip8Console
