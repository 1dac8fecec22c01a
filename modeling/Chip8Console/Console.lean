import Chip8Console.Memory.Images
import Chip8Console.Memory.Source
import Chip8Console.Pacer

/-!
# The console

The console owns the devices, the pacer and the core of the current session.  A
session begins when a program is loaded into a fresh core.  It is over when
another is loaded, when it is stopped, or when a refresh fails.  The devices
outlive it, but not what is held, latched, drawn or sounding.

A core whose session is over is never entered again.  It stays readable until
another takes its place.

* `Console.load` stops what runs, writes the two images, and blanks the screen.
  If stopping or writing fails there is no session.
* `Console.refresh` ends the session if the refresh fails, and reports the
  failure that ended it and not one of the clean-up.
* `Console.stop` cancels pacing, lets go of the keys and turns the tone off.
-/

namespace Chip8Console

universe u

/-- The session of a console. -/
inductive Session (σ : Type u) where
  /-- There has been none. -/
  | none
  /-- This core is running. -/
  | running (core : Core σ)
  /-- This core was the last one. -/
  | finished (core : Core σ)

namespace Session

variable {σ : Type u}

/-- The core that runs. -/
def core? : Session σ → Option (Core σ)
  | .running core => some core
  | _ => .none

/-- The core that runs or was the last to run. -/
def lastCore? : Session σ → Option (Core σ)
  | .none => .none
  | .running core | .finished core => some core

/-- A core is running. -/
def isRunning : Session σ → Bool
  | .running _ => true
  | _ => false

/-- The session after its end. -/
def finish : Session σ → Session σ
  | .running core => .finished core
  | session => session

/-- The session with its core, running or not, exchanged for another. -/
def mapCore (f : Core σ → Core σ) : Session σ → Session σ
  | .none => .none
  | .running core => .running (f core)
  | .finished core => .finished (f core)

end Session

/-- Devices, pacing and a session. -/
structure Console (σ : Type u) where
  devices : Devices
  /-- When the next frame is due. -/
  pacer : Pacer
  session : Session σ := .none

namespace Console

variable {σ : Type u}

/-- A console around given devices. -/
def ofDevices (config : Config) (devices : Devices) : Console σ :=
  { devices, pacer := Pacer.ofConfig config }

/-- A console with a speaker and a random source. -/
def new (config : Config) (speaker : Speaker) (random : Random) : Except Failure (Console σ) :=
  match Keypad.ofList config.keymap with
  | .error error => .error (.keymap error)
  | .ok keypad => .ok <| ofDevices config {
      keypad
      beeper := { speaker }
      random
      diagnostics := config.diagnostics }

/-- A session is running. -/
def isRunning (c : Console σ) : Bool := c.session.isRunning

/-- Adds entries to the log. -/
def report (c : Console σ) (entries : List LogEntry) : Console σ :=
  { c with devices := c.devices.report entries }

/-! ## The life of a session -/

/-- Ends the session.  The keys are let go and the tone stops. -/
def stop (c : Console σ) : Except Failure Unit × Console σ :=
  let c := if c.isRunning then c.report [⟨.debug, "session stopped"⟩] else c
  let (outcome, devices) := { c.devices with keypad := c.devices.keypad.reset }.silence
  (outcome, { devices, pacer := c.pacer.cancel, session := c.session.finish })

/-- Ends the session and only reports it if the tone does not stop. -/
def shutDown (c : Console σ) : Console σ :=
  match c.stop with
  | (.ok (), c) => c
  | (.error failure, c) => c.report [⟨.error, s!"couldn't silence audio: {failure.message}"⟩]

/-- Starts a session on a fresh core. -/
def load (c : Console σ) (core : Core σ) (program : Bytes) :
    Except Failure Unit × Console σ :=
  match c.stop with
  | (.error failure, c) => (.error failure, c)
  | (.ok (), c) =>
      match core.memory.install program with
      | (.error failure, _) => (.error failure, c)
      | (.ok (), memory) =>
          let devices := { c.devices with screen := Screen.blank }
          (.ok (), { c with devices, session := .running { core with memory } }.report
            [⟨.info, s!"session started with {program.length} byte program"⟩])

/-- Starts a session with a program that has to be read first.  If reading fails
nothing is stopped. -/
def loadFrom (c : Console σ) (core : Core σ) (source : Source) :
    Except Failure Unit × Console σ :=
  match source.readAll with
  | .error failure => (.error failure, c)
  | .ok program => c.load core program

/-- Handles one refresh of the display. -/
def refresh [Interpreter σ] (c : Console σ) (time : Binary64) :
    Except Failure RefreshOutcome × Console σ :=
  match c.session with
  | .running core =>
      match c.pacer.refresh time ⟨core, c.devices⟩ with
      | (.ok outcome, pacer, m) =>
          (.ok outcome, { devices := m.devices, pacer, session := .running m.core })
      | (.error failure, pacer, m) =>
          let c : Console σ := { devices := m.devices, pacer, session := .running m.core }
          (.error failure,
            (c.report [⟨.error, s!"session terminated: {failure.message}"⟩]).shutDown)
  | _ => (.ok .stopped, c)

/-- Puts the console away. -/
def close (c : Console σ) : Console σ := { c with devices := c.devices.close }

/-! ## Operations as data -/

/-- Something done to a console. -/
inductive Op (σ : Type u) where
  | load (core : Core σ) (program : Bytes)
  /-- Start a session with a program that has to be read first. -/
  | loadFrom (core : Core σ) (source : Source)
  /-- Handle a refresh of the display. -/
  | refresh (time : Binary64)
  | stop
  | devices (op : Devices.Op)

/-- What an operation answers. -/
@[reducible] def Op.Answer : Op σ → Type
  | .load _ _ | .loadFrom _ _ | .stop => Except Failure Unit
  | .refresh _ => Except Failure RefreshOutcome
  | .devices op => op.Answer

/-- Carries out an operation. -/
def perform [Interpreter σ] (c : Console σ) : (op : Op σ) → op.Answer × Console σ
  | .load core program => c.load core program
  | .loadFrom core source => c.loadFrom core source
  | .refresh time => c.refresh time
  | .stop => c.stop
  | .devices op =>
      let (answer, devices) := c.devices.perform op
      (answer, { c with devices })

end Console

end Chip8Console
