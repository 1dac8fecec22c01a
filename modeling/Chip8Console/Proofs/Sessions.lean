import Chip8Console.Console
import Chip8Console.Proofs.DeviceCalls

/-!
# How sessions begin and end

Stopping and loading take a console apart and put it together again.  Here it is
stated once, field by field, what they leave behind.

* `Console.stop_eq`: the console after its session.
* `Console.shutDown_eq`: shutting down is stopping, up to the log.
* `Console.load_eq`: what a load can change.
* `Console.Begun`, `Console.begun_of_load`: the console after a load that
  succeeded.
-/

namespace Chip8Console

universe u

variable {σ : Type u}

namespace Console

theorem isRunning_iff {c : Console σ} :
    c.isRunning = true ↔ ∃ core, c.session = .running core := by
  rw [isRunning]
  cases c.session with
  | none => simp [Session.isRunning]
  | finished core => simp [Session.isRunning]
  | running core => simp [Session.isRunning]

/-! ## The end -/

section Stop

variable (c : Console σ)

/-- What stopping does, up to the log. -/
theorem stop_eq :
    ∃ log, c.stop = (c.devices.beeper.disable.1,
      ⟨{ c.devices with keypad := c.devices.keypad.reset, beeper := c.devices.beeper.disable.2, log },
        c.pacer.cancel, c.session.finish⟩) := by
  rw [stop]
  cases c.isRunning with
  | true => exact ⟨_, rfl⟩
  | false => exact ⟨_, rfl⟩

theorem outcome_stop : c.stop.1 = c.devices.beeper.disable.1 := by
  obtain ⟨log, same⟩ := c.stop_eq
  rw [same]

@[simp] theorem pacer_stop : c.stop.2.pacer = c.pacer.cancel := by
  obtain ⟨log, same⟩ := c.stop_eq
  rw [same]

@[simp] theorem session_stop : c.stop.2.session = c.session.finish := by
  obtain ⟨log, same⟩ := c.stop_eq
  rw [same]

@[simp] theorem keypad_stop : c.stop.2.devices.keypad = c.devices.keypad.reset := by
  obtain ⟨log, same⟩ := c.stop_eq
  rw [same]

@[simp] theorem screen_stop : c.stop.2.devices.screen = c.devices.screen := by
  obtain ⟨log, same⟩ := c.stop_eq
  rw [same]

@[simp] theorem beeper_stop : c.stop.2.devices.beeper = c.devices.beeper.disable.2 := by
  obtain ⟨log, same⟩ := c.stop_eq
  rw [same]

@[simp] theorem random_stop : c.stop.2.devices.random = c.devices.random := by
  obtain ⟨log, same⟩ := c.stop_eq
  rw [same]

@[simp] theorem fault_stop : c.stop.2.devices.fault = c.devices.fault := by
  obtain ⟨log, same⟩ := c.stop_eq
  rw [same]

@[simp] theorem diagnostics_stop : c.stop.2.devices.diagnostics = c.devices.diagnostics := by
  obtain ⟨log, same⟩ := c.stop_eq
  rw [same]

end Stop

/-- Shutting down is stopping, but for what it says about a tone that goes on. -/
theorem shutDown_eq (c : Console σ) : ∃ entries, c.shutDown = c.stop.2.report entries := by
  unfold shutDown
  rcases stopped : c.stop with ⟨outcome, after⟩
  cases outcome with
  | ok value =>
    refine ⟨[], ?_⟩
    simp [report, Devices.report]
  | error failure => exact ⟨_, rfl⟩

@[simp] theorem pacer_shutDown (c : Console σ) : c.shutDown.pacer = c.pacer.cancel := by
  obtain ⟨entries, same⟩ := c.shutDown_eq
  rw [same]
  exact c.pacer_stop

/-! ## The beginning -/

/-- A load stops what runs.  Beyond that it changes at most the screen, the
session and the log, whether it succeeds or not. -/
theorem load_eq (c : Console σ) (core : Core σ) (program : Bytes) :
    ∃ screen log session, (c.load core program).2
      = ⟨{ c.stop.2.devices with screen, log }, c.stop.2.pacer, session⟩ := by
  unfold load
  rcases c.stop with ⟨outcome, rest⟩
  cases outcome with
  | error failure => exact ⟨_, _, _, rfl⟩
  | ok value =>
    rcases core.memory.install program with ⟨answer, memory⟩
    cases answer with
    | error failure => exact ⟨_, _, _, rfl⟩
    | ok value => exact ⟨_, _, _, rfl⟩

theorem pacer_load (c : Console σ) (core : Core σ) (program : Bytes) :
    (c.load core program).2.pacer = c.pacer.cancel := by
  obtain ⟨screen, log, session, left⟩ := c.load_eq core program
  rw [left]
  exact c.pacer_stop

/-- What is left behind by a load of a core with a program. -/
structure Begun (c : Console σ) (core : Core σ) (program : Bytes) (loaded : Console σ) : Prop where
  /-- The tone, if any, was turned off. -/
  silenced : c.devices.beeper.disable.1 = .ok ()
  /-- The two images were written. -/
  installed : ∃ memory, core.memory.install program = (.ok (), memory)
    ∧ loaded.session = .running { core with memory }
  pacer : loaded.pacer = c.pacer.cancel
  keypad : loaded.devices.keypad = c.devices.keypad.reset
  screen : loaded.devices.screen = Screen.blank
  beeper : loaded.devices.beeper = c.devices.beeper.disable.2
  random : loaded.devices.random = c.devices.random
  diagnostics : loaded.devices.diagnostics = c.devices.diagnostics
  fault : loaded.devices.fault = c.devices.fault

theorem begun_of_load {c loaded : Console σ} {core : Core σ} {program : Bytes}
    (done : c.load core program = (.ok (), loaded)) : c.Begun core program loaded := by
  obtain ⟨log, stopped⟩ := c.stop_eq
  rw [load, stopped] at done
  cases silenced : c.devices.beeper.disable.1 with
  | error failure =>
    rw [silenced] at done
    cases done
  | ok value =>
    rw [silenced] at done
    rcases written : core.memory.install program with ⟨answer, memory⟩
    rw [written] at done
    cases answer with
    | error failure => cases done
    | ok value =>
      cases done
      exact ⟨silenced, ⟨memory, written, rfl⟩, rfl, rfl, rfl, rfl, rfl, rfl, rfl⟩

/-- A load succeeds if the tone stops and the two images fit. -/
theorem load_of_silenced {c : Console σ} {core : Core σ} {program : Bytes} {memory : Memory}
    (silenced : c.devices.beeper.disable.1 = .ok ())
    (written : core.memory.install program = (.ok (), memory)) :
    ∃ loaded, c.load core program = (.ok (), loaded) := by
  unfold load
  rw [← outcome_stop] at silenced
  rcases stopped : c.stop with ⟨outcome, rest⟩
  rw [stopped] at silenced
  cases silenced
  rw [written]
  exact ⟨_, rfl⟩

end Console

end Chip8Console
