import Chip8Console.Console
import Chip8Console.Terminal.Display
import Chip8Console.Terminal.KeyTracker

/-!
# Playing a session at a terminal

A session is played in *rounds*.  In each the waiting events are taken in, and
then the console is refreshed.  If that processed a frame the display is redrawn.

The last round is the first that has a request to quit, in which nothing more
happens, or a failure of the refresh or of the display, or no session.  However
it ends, the session is then stopped.  The result is the failure, or success.
That the tone could not be turned off is only logged.

* `Play.step` plays one round.
* `Play.run` plays rounds up to the last.
* `Play.run_append` says that the rounds need not be known ahead.
-/

namespace Chip8Console

universe u v

/-- Whether there is more to play. -/
inductive Progress where
  /-- There is. -/
  | goOn
  /-- There is no session left. -/
  | finish
  deriving DecidableEq

/-- Refreshes a console and redraws the display if that processed a frame. -/
def Console.redraw {σ : Type u} {δ : Type v} [Interpreter σ] [Display δ]
    (c : Console σ) (display : δ) (time : Binary64) :
    Except Failure Progress × Console σ × δ :=
  match c.refresh time with
  | (.error failure, c) => (.error failure, c, display)
  | (.ok .stopped, c) => (.ok .finish, c, display)
  | (.ok .started, c) | (.ok .waiting, c) => (.ok .goOn, c, display)
  | (.ok (.frame _ _), c) =>
      match Display.draw display c.devices.screen.front with
      | (.ok (), display) => (.ok .goOn, c, display)
      | (.error text, display) => (.error (.io text), c, display)

/-- What one round of playing is given. -/
structure Round where
  /-- The waiting events, each with the time at which it is taken in. -/
  events : List (Nat × TerminalEvent) := []
  /-- The time at which keys expire. -/
  expiry : Nat
  /-- The time of the refresh. -/
  time : Binary64

/-- A session that is being played. -/
structure Play (σ : Type u) (δ : Type v) where
  tracker : KeyTracker
  console : Console σ
  display : δ

namespace Play

variable {σ : Type u} {δ : Type v}

/-- What a round leaves behind. -/
inductive Step (σ : Type u) (δ : Type v) where
  /-- There is more to play. -/
  | more (play : Play σ δ)
  /-- It was the last round. -/
  | finished (result : Except Failure Unit) (play : Play σ δ)

/-- The time from round to round, in nanoseconds.  There is none if the refresh
rate is no rate. -/
def period? (config : Config) : Option Nat := config.refreshRate.recip.nanoseconds?

/-- Begins to play, if the refresh rate is one. -/
def start? (config : Config) (console : Console σ) (display : δ) : Option (Play σ δ) :=
  (period? config).map fun _ => { tracker := { hold := config.keyHold }, console, display }

/-- Stops the session for good. -/
def finish (play : Play σ δ) (result : Except Failure Unit) : Step σ δ :=
  .finished result { play with console := play.console.shutDown }

/-- Takes in the waiting events of a round. -/
def takeIn (play : Play σ δ) (round : Round) : List KeyOutcome × Play σ δ :=
  let (outcomes, tracker, devices) :=
    play.console.devices.track play.tracker (.drain round.events round.expiry)
  (outcomes, { play with tracker, console := { play.console with devices } })

variable [Interpreter σ] [Display δ]

/-- Plays one round. -/
def step (play : Play σ δ) (round : Round) : Step σ δ :=
  let (outcomes, play) := play.takeIn round
  if KeyOutcome.quit ∈ outcomes then
    { play with console := play.console.report [⟨.info, "quit requested"⟩] }.finish (.ok ())
  else
    let (outcome, console, display) := play.console.redraw play.display round.time
    let play := { play with console, display }
    match outcome with
    | .ok .goOn => .more play
    | .ok .finish => play.finish (.ok ())
    | .error failure => play.finish (.error failure)

/-- Plays rounds until the last, or until there are no more. -/
def run (play : Play σ δ) : List Round → Step σ δ
  | [] => .more play
  | round :: rest =>
      match play.step round with
      | .more play => play.run rest
      | .finished result play => .finished result play

/-- Plays on from what earlier rounds left, unless one of them was the last. -/
def Step.playOn : Step σ δ → List Round → Step σ δ
  | .more play, rounds => play.run rounds
  | .finished result play, _ => .finished result play

theorem run_cons (play : Play σ δ) (round : Round) (rest : List Round) :
    play.run (round :: rest) = (play.step round).playOn rest := by
  rw [run]
  cases play.step round with
  | more next => rfl
  | finished result last => rfl

/-- Rounds that are played as they come make one play. -/
theorem run_append (play : Play σ δ) (earlier later : List Round) :
    play.run (earlier ++ later) = (play.run earlier).playOn later := by
  induction earlier generalizing play with
  | nil => rfl
  | cons round rest ih =>
    rw [List.cons_append, run_cons, run_cons]
    cases play.step round with
    | more next => exact ih next
    | finished result last => rfl

end Play

end Chip8Console
