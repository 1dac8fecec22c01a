import Chip8Console.Proofs.InstalledImages
import Chip8Console.Proofs.Lifecycle
import Chip8Console.Proofs.Sources
import Chip8Console.Proofs.Tones

/-!
# Loads that fail

A load can fail at three depths, and each leaves something else behind.

* The program cannot be read.  Then nothing has been done yet.
* The tone of the old session does not stop.  Then that session is over.
* An image does not fit.  Then the old session is over as well, and the core that
  was to be loaded is given up, whatever was written into it.

* `Console.LoadFails`: why a load fails, and with what.
* `Console.Dropped`: what a load leaves behind that failed after reading.
* `Console.failed_loads`: the main statement.
-/

namespace Chip8Console

universe u

namespace Console

variable {σ : Type u}

/-! ## Why a load fails -/

/-- The tone is off, or the speaker will grant the request to stop it. -/
def Silences (c : Console σ) : Prop :=
  c.devices.isSounding = true → c.devices.beeper.speaker.stop.1 = none

/-- Why a load fails, and with what.  The tone comes before the two images, and
the font before the program. -/
inductive LoadFails (c : Console σ) (core : Core σ) (program : Bytes) : Failure → Prop where
  /-- The tone does not stop. -/
  | tone {text : String} (sounding : c.devices.isSounding = true)
      (refused : c.devices.beeper.speaker.stop.1 = some text) :
      LoadFails c core program (.audio text)
  /-- The font does not fit. -/
  | fontTooLong (silenced : c.Silences)
      (short : core.memory.size < fontAddress.toNat + font.length) :
      LoadFails c core program (.outOfBounds fontAddress font.length core.memory.size)
  /-- The program does not fit. -/
  | programTooLong (silenced : c.Silences)
      (font_fits : fontAddress.toNat + font.length ≤ core.memory.size)
      (short : core.memory.size < programAddress.toNat + program.length) :
      LoadFails c core program (.outOfBounds programAddress program.length core.memory.size)

theorem disable_of_silences {c : Console σ} (silenced : c.Silences) :
    c.devices.beeper.disable.1 = .ok () := by
  cases on : c.devices.beeper.active with
  | false => rw [Beeper.disable_of_off on]
  | true => rw [Beeper.disable_of_granted on (silenced on)]

/-- The outcome of a load is that of stopping, and then that of the two images. -/
theorem outcome_load (c : Console σ) (core : Core σ) (program : Bytes) :
    (c.load core program).1
      = match c.devices.beeper.disable.1 with
        | .ok () => (core.memory.install program).1
        | .error failure => .error failure := by
  rw [← outcome_stop, load]
  rcases c.stop with ⟨outcome, rest⟩
  cases outcome with
  | error failure => rfl
  | ok value =>
    rcases core.memory.install program with ⟨answer, memory⟩
    cases answer with
    | error failure => rfl
    | ok value => rfl

/-- A load succeeds, or it fails for one of the reasons. -/
theorem load_succeeds_or_fails (c : Console σ) (core : Core σ) (program : Bytes) :
    ((c.load core program).1 = .ok () ∧ c.Silences
        ∧ programAddress.toNat + program.length ≤ core.memory.size)
      ∨ ∃ failure, (c.load core program).1 = .error failure ∧ c.LoadFails core program failure := by
  have outcome := c.outcome_load core program
  by_cases silenced : c.Silences
  · rw [disable_of_silences silenced, Memory.outcome_install] at outcome
    by_cases font_fits : fontAddress.toNat + font.length ≤ core.memory.size
    · rw [if_pos font_fits] at outcome
      by_cases fits : programAddress.toNat + program.length ≤ core.memory.size
      · rw [if_pos fits] at outcome
        exact .inl ⟨outcome, silenced, fits⟩
      · rw [if_neg fits] at outcome
        exact .inr ⟨_, outcome, .programTooLong silenced font_fits (Nat.lt_of_not_le fits)⟩
    · rw [if_neg font_fits] at outcome
      exact .inr ⟨_, outcome, .fontTooLong silenced (Nat.lt_of_not_le font_fits)⟩
  · have sounding : c.devices.beeper.active = true := by
      by_contra off
      exact silenced fun on => absurd on off
    cases refused : c.devices.beeper.speaker.stop.1 with
    | none => exact absurd (fun _ => refused) silenced
    | some text =>
      rw [Beeper.disable_of_refused sounding refused] at outcome
      exact .inr ⟨_, outcome, .tone sounding refused⟩

theorem not_silences {c : Console σ} {text : String} (sounding : c.devices.isSounding = true)
    (refused : c.devices.beeper.speaker.stop.1 = some text) : ¬ c.Silences := by
  intro silenced
  rw [silenced sounding] at refused
  cases refused

namespace LoadFails

variable {c : Console σ} {core : Core σ} {program : Bytes} {failure other : Failure}

/-- There is one reason at most. -/
theorem eq (h₁ : c.LoadFails core program failure) (h₂ : c.LoadFails core program other) :
    failure = other := by
  cases h₁ with
  | tone sounding refused =>
    cases h₂ with
    | tone _ refused' =>
      rw [refused] at refused'
      cases refused'
      rfl
    | fontTooLong silenced _ => exact absurd silenced (not_silences sounding refused)
    | programTooLong silenced _ _ => exact absurd silenced (not_silences sounding refused)
  | fontTooLong silenced short =>
    cases h₂ with
    | tone sounding refused => exact absurd silenced (not_silences sounding refused)
    | fontTooLong _ _ => rfl
    | programTooLong _ font_fits _ => exact absurd font_fits (Nat.not_le_of_lt short)
  | programTooLong silenced font_fits short =>
    cases h₂ with
    | tone sounding refused => exact absurd silenced (not_silences sounding refused)
    | fontTooLong _ short' => exact absurd font_fits (Nat.not_le_of_lt short')
    | programTooLong _ _ _ => rfl

/-- There is none if the tone stops and the program fits.  The font fits wherever
a program does. -/
theorem not_fits (h : c.LoadFails core program failure) :
    ¬ (c.Silences ∧ programAddress.toNat + program.length ≤ core.memory.size) := by
  rintro ⟨silenced, fits⟩
  cases h with
  | tone sounding refused => exact not_silences sounding refused silenced
  | fontTooLong _ short =>
    have font_below : fontAddress.toNat + font.length ≤ programAddress.toNat := by decide
    omega
  | programTooLong _ _ short => omega

end LoadFails

theorem load_ok_iff {c : Console σ} {core : Core σ} {program : Bytes} :
    (c.load core program).1 = .ok ()
      ↔ c.Silences ∧ programAddress.toNat + program.length ≤ core.memory.size := by
  rcases c.load_succeeds_or_fails core program with ⟨succeeded, enough⟩ | ⟨failure, failed, fails⟩
  · exact iff_of_true succeeded enough
  · exact iff_of_false (by rw [failed]; nofun) fails.not_fits

theorem load_error_iff {c : Console σ} {core : Core σ} {program : Bytes} {failure : Failure} :
    (c.load core program).1 = .error failure ↔ c.LoadFails core program failure := by
  rcases c.load_succeeds_or_fails core program with ⟨succeeded, enough⟩ | ⟨reason, failed, fails⟩
  · exact iff_of_false (by rw [succeeded]; nofun) fun fails => fails.not_fits enough
  · rw [failed, Except.error.injEq]
    constructor
    · rintro rfl
      exact fails
    · exact fails.eq

/-! ## What is left behind -/

/-- The session is over, and bindings, planes and parked fault are as they were.
The last core is still the one of that session. -/
structure Dropped (c after : Console σ) : Prop where
  gone : after.Over
  session : after.session = c.session.finish
  keymap : after.devices.keypad.keymap = c.devices.keypad.keymap
  screen : after.devices.screen = c.devices.screen
  fault : after.devices.fault = c.devices.fault

theorem dropped_stop (c : Console σ) : c.Dropped c.stop.2 where
  gone := c.over_stop
  session := c.session_stop
  keymap := by rw [keypad_stop, Keypad.reset]
  screen := c.screen_stop
  fault := c.fault_stop

/-- A load that fails has stopped the console and done nothing else. -/
theorem load_of_fails {c : Console σ} {core : Core σ} {program : Bytes} {failure : Failure}
    (failed : (c.load core program).1 = .error failure) :
    (c.load core program).2 = c.stop.2 := by
  unfold load at failed ⊢
  rcases stopped : c.stop with ⟨outcome, rest⟩
  rw [stopped] at failed
  cases outcome with
  | error refusal => rfl
  | ok value =>
    rcases written : core.memory.install program with ⟨answer, memory⟩
    rw [written] at failed
    cases answer with
    | error tooLong => rfl
    | ok value => cases failed

variable [Interpreter σ]

/-! ## The main statement -/

/-- **Loads that fail.**  If the program cannot be read the load fails with the
reason and changes nothing.  Else it is a load of what was read.  That succeeds
exactly if the tone is off or stops, and the memory reaches to the end of the
program.  Otherwise it fails with the first thing that goes wrong: the tone, the
font, the program.  Then the old session is over, and bindings, planes and parked
fault are as they were.  A load needs no interpreter, so it enters no core itself.
None is entered until a load succeeds, and every refresh answers that there is no
session.  And whatever core is entered later was brought by a later load. -/
theorem failed_loads (c : Console σ) (core : Core σ) (program : Bytes) :
    (∀ source : Source, (∃ text, source.Breaks text) ∨ ∃ content, source.Holds content)
      ∧ (∀ source text, source.Breaks text → c.loadFrom core source = (.error (.io text), c))
      ∧ (∀ source, source.Holds program → c.loadFrom core source = c.load core program)
      ∧ ((c.load core program).1 = .ok ()
        ↔ c.Silences ∧ programAddress.toNat + program.length ≤ core.memory.size)
      ∧ (∀ failure, (c.load core program).1 = .error failure ↔ c.LoadFails core program failure)
      ∧ ∀ failure, (c.load core program).1 = .error failure →
        c.Dropped (c.load core program).2
        ∧ (∀ later, (c.load core program).2.Throughout (fun d op => d.begins op = false) later →
          (c.load core program).2.visitsOf later = []
          ∧ ∀ time, (((c.load core program).2.after later).refresh time).1 = .ok .stopped)
        ∧ ∀ later time, ∀ m ∈ ((c.load core program).2.after later).entered time,
          (c.load core program).2.GoesBack later m.core := by
  refine ⟨Source.breaks_or_holds, ?_, ?_, load_ok_iff, fun failure => load_error_iff, ?_⟩
  · intro source text breaks
    rw [loadFrom, breaks.readAll]
  · intro source holds
    rw [loadFrom, holds.readAll]
  · intro failure failed
    rw [load_of_fails failed]
    have stopped := c.over_stop.stopped
    refine ⟨c.dropped_stop, ?_, ?_⟩
    · intro later without
      refine ⟨visitsOf_of_not_running stopped without, ?_⟩
      intro time
      rw [refresh_stopped_iff]
      exact after_of_throughout (I := fun d => d.isRunning = false)
        (fun _ _ => not_running_perform) stopped without
    · intro later time m enters
      exact goesBack_of_entered stopped enters

end Console

/-! ## A load at each depth -/

namespace Scripted

/-- A console whose tone goes on, and whose speaker refuses to stop it. -/
def hummed : Console Scripted := (Console.ofDevices {} stuck).after humming

/-- A core with so little memory that the font does not fit. -/
def tiny : Core Scripted := ⟨⟨[]⟩, Memory.zeros 100⟩

end Scripted

namespace Console

/-- A source that breaks leaves the session alone.  With a program in hand the
tone does not stop, and the session is over.  The next load finds no room for the
font, and the one after that for the program. -/
theorem failed_loads_hummed :
    Scripted.hummed.loadFrom (Scripted.core []) (.piece [0x12] (.broken "end of tape"))
        = (.error (.io "end of tape"), Scripted.hummed)
      ∧ (Scripted.hummed.load (Scripted.core []) []).1 = .error (.audio "stuck")
      ∧ Scripted.hummed.Dropped (Scripted.hummed.load (Scripted.core []) []).2
      ∧ (((Scripted.hummed.load (Scripted.core []) []).2).load Scripted.tiny []).1
        = .error (.outOfBounds 0x50 80 100)
      ∧ (((Scripted.hummed.load (Scripted.core []) []).2).load (Scripted.core [])
          (List.replicate 3585 0)).1 = .error (.outOfBounds 0x200 3585 4096) := by
  obtain ⟨_, breaks, _, _, fails, dropped⟩ :=
    failed_loads Scripted.hummed (Scripted.core []) []
  have sounding : Scripted.hummed.devices.isSounding = true := by decide +kernel
  have refused : Scripted.hummed.devices.beeper.speaker.stop.1 = some "stuck" := by decide +kernel
  have stuck := (fails _).2 (.tone sounding refused)
  have left := (dropped _ stuck).1
  have silenced : Silences (Scripted.hummed.load (Scripted.core []) []).2 := by
    intro on
    rw [left.gone.silent] at on
    cases on
  obtain ⟨_, _, _, _, tiny, _⟩ :=
    failed_loads (Scripted.hummed.load (Scripted.core []) []).2 Scripted.tiny []
  obtain ⟨_, _, _, _, full, _⟩ :=
    failed_loads (Scripted.hummed.load (Scripted.core []) []).2 (Scripted.core [])
      (List.replicate 3585 0)
  have usual : (Scripted.core []).memory.size = 4096 := Memory.size_zeros ramSize
  have long : (List.replicate 3585 (0 : UInt8)).length = 3585 := List.length_replicate
  have no_room := (full _).2
    (.programTooLong silenced (by rw [usual]; decide) (by rw [usual, long]; decide))
  rw [usual, long] at no_room
  exact ⟨breaks _ _ (.piece (by decide) .broken), stuck, left,
    (tiny _).2 (.fontTooLong silenced (by decide)), no_room⟩

end Console

end Chip8Console
