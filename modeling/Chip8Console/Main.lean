import Chip8Console.Demo
import Chip8Console.Terminal.Ansi
import Chip8Console.Terminal.Typeahead

/-!
# The demonstration as a program

Plays the demonstration in real time on the terminal that standard input and
output are connected to.  The terminal has to hand over keys one at a time and
without showing them.  The tone is the terminal's bell.
-/

namespace Chip8Console.Program

/-- Columns that are taken to be there. -/
def terminalColumns : Nat := 100

/-- Rows that are taken to be there. -/
def terminalRows : Nat := 40

/-- Collects what is typed. -/
partial def collect (input : IO.FS.Stream) (inbox : IO.Ref String) : IO Unit := do
  let bytes ← input.read 64
  unless bytes.isEmpty do
    inbox.modify fun text => text ++ (String.fromUTF8? bytes).getD ""
    collect input inbox

/-- Shows a panel if it has changed, and rings the bell if a tone has started. -/
def present (output : IO.FS.Stream) (before after : Play TestCard Panel) : IO Unit := do
  if !before.console.devices.isSounding && after.console.devices.isSounding then
    output.putStr "\x07"
  let text := Ansi.grid after.display.grid
  if text ≠ Ansi.grid before.display.grid then
    output.putStr text
  output.flush

/-- Plays rounds, each as late as the refresh rate asks, and answers how it ended.
A round is played when it comes, which is one play of them all by
`Play.run_append`. -/
partial def playRounds (inbox : IO.Ref String) (output : IO.FS.Stream) (begun period : Nat)
    (ahead : Typeahead) (play : Play TestCard Panel) :
    IO (Except Failure Unit × Play TestCard Panel) := do
  let roundBegun ← IO.monoNanosNow
  let typed ← inbox.modifyGet fun text => (text, "")
  let now ← IO.monoMsNow
  let time := Binary64.ofDecimal (Int.ofNat ((← IO.monoNanosNow) - begun)) (-6)
  let (read, ahead) := (ahead.type (KeyText.events typed)).read
  let events := read.map fun event => (now, event)
  match play.run [{ events, expiry := now, time }] with
  | .finished result last => return (result, last)
  | .more next =>
    present output play next
    let spent := (← IO.monoNanosNow) - roundBegun
    IO.sleep (UInt32.ofNat ((period - spent) / 1000000))
    playRounds inbox output begun period ahead next

/-- Plays the demonstration, and answers the exit code. -/
def run : IO UInt32 := do
  let output ← IO.getStdout
  let random := Random.ofSeed (UInt64.ofNat (← IO.monoNanosNow))
  match Demo.start Speaker.willing random (Grid.blank terminalColumns terminalRows) with
  | .error text =>
    IO.eprintln text
    return 1
  | .ok play =>
    let inbox ← IO.mkRef ""
    let _ ← IO.asTask (collect (← IO.getStdin) inbox)
    let period := (Play.period? Demo.config).getD 0
    output.putStr (Ansi.grid play.display.grid)
    let (result, last) ← playRounds inbox output (← IO.monoNanosNow) period {} play
    output.putStr (Ansi.grid last.display.grid.closed)
    output.putStr "\n\n\n\n"
    for entry in last.console.devices.close.log do
      IO.eprintln entry.line
    match result with
    | .ok () => return 0
    | .error failure =>
      IO.eprintln failure.message
      return 1

end Chip8Console.Program

/-- Plays the demonstration. -/
def main : IO UInt32 := Chip8Console.Program.run
