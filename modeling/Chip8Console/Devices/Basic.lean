import Chip8Console.Beeper.Basic
import Chip8Console.Devices.Call
import Chip8Console.Keypad.Basic
import Chip8Console.Random
import Chip8Console.Screen.Basic

/-!
# The devices

Keypad, screen, beeper and random source, as a core meets them.  They outlive
any session.

A call of a core has no way to report that the speaker refused.  The refusal is
logged and *parked* as a fault, to be picked up after the core's call returned.
Only the first fault is kept until someone takes it.

The values that a core shows for debugging go to the log, and only if
diagnostics are wanted.
-/

namespace Chip8Console

/-- The devices of the console. -/
structure Devices where
  keypad : Keypad
  screen : Screen := {}
  beeper : Beeper := {}
  random : Random := .zeros
  /-- The values that a core shows go to the log. -/
  diagnostics : Bool := false
  /-- The first refusal of the speaker since someone asked. -/
  fault : Option Failure := none
  /-- What was reported so far. -/
  log : Array LogEntry := #[]

namespace Devices

/-- Adds entries to the log. -/
def report (d : Devices) (entries : List LogEntry) : Devices :=
  { d with log := d.log ++ entries }

/-- The tone is on. -/
def isSounding (d : Devices) : Bool := d.beeper.active

/-- Replaces the beeper and reports if its tone changed. -/
def withBeeper (d : Devices) (after : Beeper) : Devices :=
  { d with beeper := after }.report (d.beeper.changes after)

/-- Turns the tone off from outside a core's call. -/
def silence (d : Devices) : Except Failure Unit × Devices :=
  let (outcome, beeper) := d.beeper.disable
  (outcome, d.withBeeper beeper)

/-- Collects the parked fault. -/
def collectFault (d : Devices) : Option Failure × Devices := (d.fault, { d with fault := none })

/-- Reports a failure and parks it, unless one is parked already. -/
def park (d : Devices) (failure : Failure) : Devices :=
  { d with fault := d.fault.or (some failure) }.report
    [⟨.warn, s!"host fault during core call: {failure.message}"⟩]

/-- Parks the failure of an operation that had one. -/
def parkError (d : Devices) : Except Failure Unit → Devices
  | .ok () => d
  | .error failure => d.park failure

/-- Puts the devices away. -/
def close (d : Devices) : Devices := d.withBeeper d.beeper.close

/-! ## Answering a core -/

/-- Shows a value to whoever debugs the core. -/
def diagnose (d : Devices) (text : String) : Devices :=
  if d.diagnostics then d.report [⟨.debug, text⟩] else d

/-- Answers one call. -/
def answer (d : Devices) : (c : DeviceCall) → c.Answer × Devices
  | .clearScreen => ((), { d with screen := d.screen.clear })
  | .randomByte =>
      let (byte, random) := d.random.next
      (byte, { d with random })
  | .togglePixel x y =>
      let (wasLit, screen) := d.screen.toggle x y
      (wasLit, { d with screen })
  | .isKeyDown id => (d.keypad.isDown id, d)
  | .consumeKey =>
      let (key, keypad) := d.keypad.consume
      (key, { d with keypad })
  | .enableSound =>
      let (outcome, beeper) := d.beeper.enable
      ((), (d.withBeeper beeper).parkError outcome)
  | .disableSound =>
      let (outcome, beeper) := d.beeper.disable
      ((), (d.withBeeper beeper).parkError outcome)
  | .debugByte value => ((), d.diagnose (Hex.byte value))
  | .debugWord value => ((), d.diagnose (Hex.word value))

end Devices

universe u

/-- Carries out a routine, each call answered by the devices as the calls before
left them. -/
def Routine.run {α : Type u} : Routine α → Devices → α × Devices
  | .done result, d => (result, d)
  | .call c next, d =>
      let (answer, d) := d.answer c
      (next answer).run d

namespace Devices

/-! ## Operations as data -/

/-- Something done to the devices. -/
inductive Op where
  /-- A call as a core makes it. -/
  | call (c : DeviceCall)
  | silence
  | collectFault
  | keypad (op : Keypad.Op)
  | screen (op : Screen.Op)

/-- What an operation answers. -/
@[reducible] def Op.Answer : Op → Type
  | .call c => c.Answer
  | .silence => Except Failure Unit
  | .collectFault => Option Failure
  | .keypad op => op.Answer
  | .screen op => op.Answer

/-- Carries out an operation. -/
def perform (d : Devices) : (op : Op) → op.Answer × Devices
  | .call c => d.answer c
  | .silence => d.silence
  | .collectFault => d.collectFault
  | .keypad op =>
      let (answer, keypad) := d.keypad.perform op
      (answer, { d with keypad })
  | .screen op =>
      let (answer, screen) := d.screen.perform op
      (answer, { d with screen })

end Devices

end Chip8Console
