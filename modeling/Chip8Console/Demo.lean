import Chip8Console.TestCard
import Chip8Console.Terminal.Panel
import Chip8Console.Terminal.Play

/-!
# The demonstration

The test card in a console with the usual configuration, played on a terminal.
-/

namespace Chip8Console.Demo

/-- The usual configuration. -/
def config : Config := {}

/-- A console in which the test card is running. -/
def console (speaker : Speaker) (random : Random) : Except Failure (Console TestCard) :=
  match Console.new config speaker random with
  | .error failure => .error failure
  | .ok fresh =>
      match fresh.load TestCard.core [] with
      | (.error failure, _) => .error failure
      | (.ok (), running) => .ok running

/-- Begins to play the demonstration on a terminal.  The error is a message to
the user. -/
def start {columns rows : Nat} (speaker : Speaker) (random : Random) (terminal : Grid columns rows) :
    Except String (Play TestCard Panel) :=
  match console speaker random, Panel.open? terminal with
  | .error failure, _ => .error failure.message
  | .ok _, none => .error s!"the terminal has no room for {boxColumns} columns and {boxRows} rows"
  | .ok console, some panel =>
      match Play.start? config console panel with
      | none => .error "the refresh rate is no rate"
      | some play => .ok play

end Chip8Console.Demo
