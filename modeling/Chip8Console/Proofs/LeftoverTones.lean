import Chip8Console.Proofs.Runs
import Chip8Console.Proofs.Tones

/-!
# Leftover tones

Cores and sessions come to the speaker through the beeper and in no other way.
So after whatever was done to a console its beeper is as after some operations
of its own, and the speaker's record is in blocks.

A load that succeeds leaves the switch off.  Then every tone was to stop, once.
But the speaker may have refused, and nobody asks again.  Such a tone goes on
into the next session.

* `Beeper.Reaches`: the beeper was used, and nothing else was done to it.
* `across_reaches`: that is all that a run of a console does to it.
* `Console.tones_at_load`: the tones that are left when a session begins.
* `Console.tone_survives_load`: there may be one.
-/

namespace Chip8Console

universe u

/-! ## Beepers in use -/

/-- The one beeper is what the other becomes by operations of its own. -/
def Beeper.Reaches (b later : Beeper) : Prop := ∃ ops, later = b.after ops

namespace Beeper.Reaches

theorem refl (b : Beeper) : b.Reaches b := ⟨[], rfl⟩

theorem trans {a b c : Beeper} (h₁ : a.Reaches b) (h₂ : b.Reaches c) : a.Reaches c := by
  obtain ⟨earlier, rfl⟩ := h₁
  obtain ⟨later, rfl⟩ := h₂
  exact ⟨earlier ++ later, (a.after_append earlier later).symm⟩

theorem perform (b : Beeper) (op : Op) : b.Reaches (b.perform op).2 := ⟨[op], rfl⟩

theorem of_eq {b later : Beeper} (same : later = b) : b.Reaches later := ⟨[], same⟩

end Beeper.Reaches

open Beeper (Reaches)

/-- A call of a core at most turns the tone on or off. -/
theorem Devices.reaches_answer (d : Devices) (c : DeviceCall) :
    d.beeper.Reaches (d.answer c).2.beeper := by
  cases c with
  | randomByte =>
    rw [answer_randomByte]
    exact .refl d.beeper
  | enableSound =>
    rw [answer, beeper_parkError, beeper_withBeeper]
    exact .perform d.beeper .enable
  | disableSound =>
    rw [answer, beeper_parkError, beeper_withBeeper]
    exact .perform d.beeper .disable
  | debugByte value => exact .of_eq (beeper_diagnose d _)
  | debugWord value => exact .of_eq (beeper_diagnose d _)
  | _ => exact .refl d.beeper

theorem across_reaches : Devices.Across fun d e => d.beeper.Reaches e.beeper where
  trans := fun earlier later => earlier.trans later
  answer := Devices.reaches_answer
  collect := fun d => .refl d.beeper
  silence := fun d => .perform d.beeper .disable
  others := fun d _ _ _ => .refl d.beeper

namespace Console

variable {σ : Type u} [Interpreter σ]

/-! ## Tones at a load -/

/-- **What sounds when a session begins.**  Take a load that succeeds in any
history of a console whose speaker was not asked before.  Every tone that was
started has been asked to stop, once.  The tones that go on are those whose end
was refused.  So there is none exactly if the speaker has never refused to
stop. -/
theorem tones_at_load {config : Config} {devices : Devices}
    {beepAnswers stopAnswers : List SpeakerAnswer}
    (unasked : devices.beeper = Beeper.fresh beepAnswers stopAnswers) {history : List (Op σ)}
    {core : Core σ} {program : Bytes} {loaded : Console σ}
    (done : ((ofDevices config devices).after history).load core program = (.ok (), loaded)) :
    EachStoppedOnce loaded.devices.calls
      ∧ loaded.devices.beeper.speaker.live = SpeakerCall.refusedStops loaded.devices.calls
      ∧ (loaded.devices.beeper.speaker.live = 0
        ↔ ∀ call ∈ loaded.devices.calls, call.request = .stop → call.answer = none) := by
  have reached := (across_reaches.after (ofDevices config devices) history).trans
    (across_reaches.load _ core program)
  rw [done] at reached
  obtain ⟨ops, used⟩ := reached
  have blocks : InBlocks loaded.devices.beeper.active loaded.devices.beeper.calls := by
    rw [used]
    show InBlocks (devices.beeper.after ops).active (devices.beeper.after ops).calls
    rw [unasked]
    exact Beeper.inBlocks_after (Beeper.inBlocks_fresh beepAnswers stopAnswers) ops
  have off : loaded.devices.beeper.active = false := by
    rw [(begun_of_load done).beeper, Beeper.active_disable]
  rw [off] at blocks
  have live : loaded.devices.beeper.speaker.live
      = SpeakerCall.refusedStops loaded.devices.calls := by
    have left := blocks.balance_eq
    rwa [if_neg Bool.false_ne_true, Int.zero_add] at left
  refine ⟨blocks.eachStoppedOnce, live, ?_⟩
  rw [live, ← SpeakerCall.refusedStops_eq_zero]
  exact Int.natCast_eq_zero

end Console

/-! ## A tone that goes on -/

namespace Scripted

/-- A speaker that refuses the first request to stop. -/
def sticky : Devices where
  keypad := { keymap := Keymap.conventional }
  beeper := Beeper.fresh [] [some "stuck"]

/-- A session that ends while its tone is on. -/
def sounding : List (Console.Op Scripted) := [
  .load (core [.call .enableSound fun _ => .done (.ok false)]) [],
  .refresh (Binary64.ofInt 0),
  .refresh (Binary64.ofInt 16),
  .stop]

/-- The console that starts another session after it. -/
def haunted : Console Scripted :=
  (((Console.ofDevices {} sticky).after sounding).load (core []) []).2

theorem load_haunted :
    ((Console.ofDevices {} sticky).after sounding).load (core []) [] = (.ok (), haunted) :=
  eq_ok_of_failureOf (by decide +kernel)

theorem live_haunted : haunted.devices.beeper.speaker.live = 1 := by decide +kernel

end Scripted

namespace Console

/-- The tone that is left is the one whose end was refused. -/
theorem tones_at_load_haunted :
    SpeakerCall.refusedStops Scripted.haunted.devices.calls = 1 := by
  have left := (tones_at_load rfl Scripted.load_haunted).2.1
  rw [Scripted.live_haunted] at left
  exact_mod_cast left.symm

/-- It is not so that no tone goes on when a session begins. -/
theorem tone_survives_load :
    ¬ ∀ (config : Config) (devices : Devices) (beepAnswers stopAnswers : List SpeakerAnswer)
        (history : List (Op Scripted)) (core : Core Scripted) (program : Bytes)
        (loaded : Console Scripted),
      devices.beeper = Beeper.fresh beepAnswers stopAnswers →
      (∀ op ∈ history, ∀ other, op ≠ .devices other) →
      ((ofDevices config devices).after history).load core program = (.ok (), loaded) →
      loaded.devices.beeper.speaker.live = 0 := by
  intro claim
  have silent := claim {} Scripted.sticky [] [some "stuck"] Scripted.sounding (Scripted.core []) []
    Scripted.haunted rfl (by simp [Scripted.sounding]) Scripted.load_haunted
  rw [Scripted.live_haunted] at silent
  cases silent

end Console

end Chip8Console
