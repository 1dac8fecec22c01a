import Chip8Console.Proofs.DeviceCalls
import Chip8Console.Proofs.Omissions

/-!
# The parts of the devices

The devices fall into parts: the screen, the keypad, the sound with the parked fault,
the random source, and what is shown for debugging.  Each operation belongs to one part.
It reads that part only, and it changes that part only, and the log.

So the parts do not know of each other.  How the operations of one part answer, and what
they leave in it, depends on what was in it and on their own order, and not on what
happens in between.  Operations of two parts can be shuffled.  A speaker that refuses is a
matter of the sound, and is not noticed elsewhere.

* `Devices.Op.part`, `Devices.view`: the part of an operation, and what a part remembers.
* `Devices.touches_perform`: an operation changes its part.
* `Devices.perform_of_view_eq`: an operation reads its part.
* `Devices.record`: the operations of a run with their answers.
* `Devices.picks_record`: what a run does in one part.
* `Devices.parts_are_independent`: the main statement.
-/

namespace Chip8Console

namespace Devices

/-! ## Parts -/

/-- A part of the devices. -/
inductive Part where
  | screen
  | keypad
  /-- The beeper with its speaker, and the parked fault. -/
  | sound
  | random
  /-- Where a core shows values. -/
  | debug
  deriving DecidableEq

/-- What a part remembers. -/
@[reducible] def Part.Memory : Part → Type
  | .screen => Screen
  | .keypad => Keypad
  | .sound => Beeper × Option Failure
  | .random => Random
  | .debug => Unit

/-- What a part of these devices remembers. -/
def view (d : Devices) : (part : Part) → part.Memory
  | .screen => d.screen
  | .keypad => d.keypad
  | .sound => (d.beeper, d.fault)
  | .random => d.random
  | .debug => ()

/-- The part that an operation belongs to. -/
def Op.part : Op → Part
  | .call .clearScreen | .call (.togglePixel _ _) | .screen _ => .screen
  | .call (.isKeyDown _) | .call .consumeKey | .keypad _ => .keypad
  | .call .enableSound | .call .disableSound | .silence | .collectFault => .sound
  | .call .randomByte => .random
  | .call (.debugByte _) | .call (.debugWord _) => .debug

/-- The second devices are the first with one part changed, and the log. -/
inductive Touches : Part → Devices → Devices → Prop where
  | screen (d : Devices) (screen : Screen) : Touches .screen d { d with screen }
  | keypad (d : Devices) (keypad : Keypad) : Touches .keypad d { d with keypad }
  | sound (d : Devices) (beeper : Beeper) (fault : Option Failure) (log : Array LogEntry) :
      Touches .sound d { d with beeper, fault, log }
  | random (d : Devices) (random : Random) : Touches .random d { d with random }
  | debug (d : Devices) (log : Array LogEntry) : Touches .debug d { d with log }

theorem Touches.view_eq {d e : Devices} {part other : Part} (h : Touches part d e)
    (apart : other ≠ part) : e.view other = d.view other := by
  -- the log is in no view
  cases h <;> cases other
  all_goals first
    | rfl
    | exact absurd rfl apart

theorem Touches.diagnostics_eq {d e : Devices} {part : Part} (h : Touches part d e) :
    e.diagnostics = d.diagnostics := by
  cases h <;> rfl

/-- Devices whose parts remember the same differ in the log at most. -/
theorem eq_of_view_eq {d e : Devices} (alike : ∀ part, d.view part = e.view part)
    (told : d.diagnostics = e.diagnostics) : ∃ log, d = { e with log } := by
  have screens : d.screen = e.screen := alike .screen
  have keypads : d.keypad = e.keypad := alike .keypad
  have sounds : (d.beeper, d.fault) = (e.beeper, e.fault) := alike .sound
  have randoms : d.random = e.random := alike .random
  injection sounds with beepers faults
  refine ⟨d.log, ?_⟩
  rw [← screens, ← keypads, ← beepers, ← faults, ← randoms, ← told]

/-! ## One operation -/

theorem parkError_eq (d : Devices) (outcome : Except Failure Unit) :
    ∃ fault log, d.parkError outcome = { d with fault, log } := by
  cases outcome with
  | ok => exact ⟨d.fault, d.log, rfl⟩
  | error failure => exact ⟨_, _, rfl⟩

/-- An operation changes its part, and the log. -/
theorem touches_perform (d : Devices) (op : Op) : Touches op.part d (d.perform op).2 := by
  cases op with
  | screen op => exact .screen d _
  | keypad op => exact .keypad d _
  | silence => exact .sound d _ d.fault _
  | collectFault => exact .sound d d.beeper _ d.log
  | call c =>
    cases c with
    | clearScreen | togglePixel x y => exact .screen d _
    | isKeyDown id => exact .keypad d d.keypad
    | consumeKey => exact .keypad d _
    | randomByte => exact .random d _
    | enableSound =>
      obtain ⟨fault, log, parked⟩ :=
        (d.withBeeper d.beeper.enable.2).parkError_eq d.beeper.enable.1
      rw [show (d.perform (.call .enableSound)).2 = _ from parked]
      exact .sound d _ fault log
    | disableSound =>
      obtain ⟨fault, log, parked⟩ :=
        (d.withBeeper d.beeper.disable.2).parkError_eq d.beeper.disable.1
      rw [show (d.perform (.call .disableSound)).2 = _ from parked]
      exact .sound d _ fault log
    | debugByte value =>
      obtain ⟨log, shown⟩ := d.diagnose_eq (Hex.byte value)
      rw [show (d.perform (.call (.debugByte value))).2 = _ from shown]
      exact .debug d log
    | debugWord value =>
      obtain ⟨log, shown⟩ := d.diagnose_eq (Hex.word value)
      rw [show (d.perform (.call (.debugWord value))).2 = _ from shown]
      exact .debug d log

/-- An operation reads its part.  If two devices remember the same there, it answers the
same, and they remember the same there afterwards. -/
theorem perform_of_view_eq {d e : Devices} {op : Op} (alike : d.view op.part = e.view op.part) :
    (d.perform op).1 = (e.perform op).1
      ∧ (d.perform op).2.view op.part = (e.perform op).2.view op.part := by
  cases op with
  | screen op =>
    have screens : d.screen = e.screen := alike
    simp only [perform, Op.part, view, screens, and_self]
  | keypad op =>
    have keypads : d.keypad = e.keypad := alike
    simp only [perform, Op.part, view, keypads, and_self]
  | silence =>
    have sounds : (d.beeper, d.fault) = (e.beeper, e.fault) := alike
    injection sounds with beepers faults
    simp only [perform, silence, Op.part, view, beeper_withBeeper, fault_withBeeper, beepers,
      faults, and_self]
  | collectFault =>
    have sounds : (d.beeper, d.fault) = (e.beeper, e.fault) := alike
    injection sounds with beepers faults
    simp only [perform, collectFault, Op.part, view, beepers, faults, and_self]
  | call c =>
    cases c with
    | clearScreen | togglePixel x y =>
      have screens : d.screen = e.screen := alike
      simp only [perform, answer, Op.part, view, screens, and_self]
    | isKeyDown id | consumeKey =>
      have keypads : d.keypad = e.keypad := alike
      simp only [perform, answer, Op.part, view, keypads, and_self]
    | enableSound | disableSound =>
      have sounds : (d.beeper, d.fault) = (e.beeper, e.fault) := alike
      injection sounds with beepers faults
      simp only [perform, answer, Op.part, view, beeper_parkError, fault_parkError,
        beeper_withBeeper, fault_withBeeper, beepers, faults, and_self]
    | randomByte =>
      have randoms : d.random = e.random := alike
      refine ⟨congrArg (fun random : Random => random.next.1) randoms, ?_⟩
      exact congrArg (fun random : Random => random.next.2) randoms
    | debugByte value | debugWord value => exact ⟨rfl, rfl⟩

/-! ## A run -/

/-- The devices after a run. -/
def after (d : Devices) : List Op → Devices
  | [] => d
  | op :: rest => (d.perform op).2.after rest

/-- An operation and its answer. -/
structure Reply where
  op : Op
  answer : op.Answer

/-- The record of a run. -/
def record (d : Devices) : List Op → List Reply
  | [] => []
  | op :: rest => ⟨op, (d.perform op).1⟩ :: (d.perform op).2.record rest

/-- The operations of a part, in their order. -/
def Part.ops (part : Part) (ops : List Op) : List Op := ops.filter fun op => op.part = part

/-- The operations of a part with their answers, in their order. -/
def Part.replies (part : Part) (record : List Reply) : List Reply :=
  record.filter fun reply => reply.op.part = part

theorem diagnostics_after (d : Devices) (ops : List Op) :
    (d.after ops).diagnostics = d.diagnostics := by
  induction ops generalizing d with
  | nil => rfl
  | cons op rest ih => rw [after, ih, (d.touches_perform op).diagnostics_eq]

/-- A part only sees its own operations. -/
theorem replies_record {d e : Devices} {part : Part} (alike : d.view part = e.view part)
    (ops : List Op) :
    part.replies (d.record ops) = e.record (part.ops ops)
      ∧ (d.after ops).view part = (e.after (part.ops ops)).view part := by
  induction ops generalizing d e with
  | nil => exact ⟨rfl, alike⟩
  | cons op rest ih =>
    rw [record, after, Part.replies, Part.ops, List.filter_cons, List.filter_cons]
    by_cases own : op.part = part
    · subst own
      obtain ⟨answers, next⟩ := perform_of_view_eq alike
      obtain ⟨replies, left⟩ := ih next
      simp only [decide_true, if_true, record, after]
      rw [answers]
      exact ⟨congrArg (_ :: ·) replies, left⟩
    · -- the second devices do not take this step, and the first do not show it
      have kept := (d.touches_perform op).view_eq (Ne.symm own)
      simp only [own, decide_false, Bool.false_eq_true, if_false]
      exact ih (kept.trans alike)

/-- Runs that have the same operations of a part, from devices that remember the same
there, have the same answers there. -/
theorem replies_of_ops_eq {d e : Devices} {part : Part} (alike : d.view part = e.view part)
    {ops shuffled : List Op} (same : part.ops ops = part.ops shuffled) :
    part.replies (d.record ops) = part.replies (e.record shuffled)
      ∧ (d.after ops).view part = (e.after shuffled).view part := by
  obtain ⟨replies, left⟩ := replies_record alike ops
  obtain ⟨shuffledReplies, shuffledLeft⟩ := replies_record (Eq.refl (e.view part)) shuffled
  rw [replies, left, shuffledReplies, shuffledLeft, same]
  exact ⟨rfl, rfl⟩

/-- Devices that remember the same in every part answer the same. -/
theorem record_of_view_eq {d e : Devices} (alike : ∀ part, d.view part = e.view part)
    (ops : List Op) : d.record ops = e.record ops := by
  induction ops generalizing d e with
  | nil => rfl
  | cons op rest ih =>
    obtain ⟨answers, next⟩ := perform_of_view_eq (alike op.part)
    have still : ∀ part, (d.perform op).2.view part = (e.perform op).2.view part := by
      intro part
      by_cases own : part = op.part
      · rw [own]
        exact next
      · rw [(d.touches_perform op).view_eq own, (e.touches_perform op).view_eq own, alike]
    rw [record, record, answers, ih still]

/-! ## Debugging -/

/-- What is shown for debugging is remembered nowhere. -/
theorem view_perform_of_debug {d : Devices} {op : Op} (shown : op.part = .debug) (part : Part) :
    (d.perform op).2.view part = d.view part := by
  have touches := d.touches_perform op
  rw [shown] at touches
  cases part with
  | debug => rfl
  | _ => exact touches.view_eq (by decide)

/-- Without diagnostics it is nowhere at all. -/
theorem perform_of_debug {d : Devices} {op : Op} (shown : op.part = .debug)
    (off : d.diagnostics = false) : (d.perform op).2 = d := by
  have nowhere : ∀ text, d.diagnose text = d := by
    intro text
    rw [diagnose, off]
    rfl
  cases op with
  | call c =>
    cases c with
    | debugByte value => exact nowhere (Hex.byte value)
    | debugWord value => exact nowhere (Hex.word value)
    | _ => cases shown
  | _ => cases shown

theorem record_of_omits_debug {d : Devices} {ops kept : List Op}
    (omits : Omits (fun op => op.part = .debug) ops kept) :
    Omits (fun reply => reply.op.part = .debug) (d.record ops) (d.record kept) := by
  induction omits generalizing d with
  | nil => exact .nil
  | keep rest ih => exact .keep ih
  | leaveOut shown rest ih =>
    refine .leaveOut shown ?_
    rw [record_of_view_eq (view_perform_of_debug shown)]
    exact ih

theorem after_of_omits_debug {d : Devices} {ops kept : List Op}
    (omits : Omits (fun op => op.part = .debug) ops kept) (off : d.diagnostics = false) :
    d.after ops = d.after kept := by
  induction omits generalizing d with
  | nil => rfl
  | keep rest ih => exact ih (by rw [(d.touches_perform _).diagnostics_eq, off])
  | leaveOut shown rest ih =>
    rw [after, perform_of_debug shown off]
    exact ih off

/-- **The parts of the devices are independent.**

* Take two devices that remember the same in a part, and two runs with the same operations
  of that part in the same order.  Whatever else the runs do, and wherever in between, the
  operations of the part answer the same, and the part remembers the same afterwards.
* So shuffle a run without changing the order in any part.  All operations answer the same,
  and the devices are left the same up to the log.
* Take another beeper, with a speaker that refuses other requests, and another parked fault.
  All operations but those of the sound answer the same, and all other parts remember the
  same.  So no pixel, no key and no random byte is another.
* Leave out operations for debugging, any of them.  The others answer the same, and the
  devices are left the same up to the log.  Without diagnostics the log is the same too. -/
theorem parts_are_independent (d : Devices) :
    (∀ (e : Devices) (part : Part) (ops shuffled : List Op), d.view part = e.view part →
        part.ops ops = part.ops shuffled →
          part.replies (d.record ops) = part.replies (e.record shuffled)
            ∧ (d.after ops).view part = (e.after shuffled).view part)
      ∧ (∀ ops shuffled : List Op, (∀ part : Part, part.ops ops = part.ops shuffled) →
        (∀ part : Part, part.replies (d.record ops) = part.replies (d.record shuffled))
          ∧ ∃ log, d.after ops = { d.after shuffled with log })
      ∧ (∀ (beeper : Beeper) (fault : Option Failure) (ops : List Op),
        ∀ part : Part, part ≠ .sound →
          part.replies (({ d with beeper, fault } : Devices).record ops)
              = part.replies (d.record ops)
            ∧ (({ d with beeper, fault } : Devices).after ops).view part
              = (d.after ops).view part)
      ∧ ∀ ops kept : List Op, Omits (fun op => op.part = .debug) ops kept →
        Omits (fun reply => reply.op.part = .debug) (d.record ops) (d.record kept)
          ∧ (∃ log, d.after ops = { d.after kept with log })
          ∧ (d.diagnostics = false → d.after ops = d.after kept) := by
  refine ⟨fun e part ops shuffled alike same => replies_of_ops_eq alike same, ?_, ?_, ?_⟩
  · intro ops shuffled same
    refine ⟨fun part => (replies_of_ops_eq rfl (same part)).1, ?_⟩
    refine eq_of_view_eq (fun part => (replies_of_ops_eq rfl (same part)).2) ?_
    rw [diagnostics_after, diagnostics_after]
  · intro beeper fault ops part quiet
    have elsewhere : ({ d with beeper, fault } : Devices).view part = d.view part := by
      cases part with
      | sound => exact absurd rfl quiet
      | _ => rfl
    exact replies_of_ops_eq elsewhere rfl
  · intro ops kept omits
    refine ⟨record_of_omits_debug omits, ?_, after_of_omits_debug omits⟩
    refine eq_of_view_eq (fun part => ?_) (by rw [diagnostics_after, diagnostics_after])
    cases part with
    | debug => rfl
    | _ =>
      refine (replies_of_ops_eq rfl (omits.filter_eq ?_).symm).2
      intro op shown
      rw [shown]
      rfl

/-! ## A busy core at a speaker that refuses -/

/-- Devices whose speaker refuses to start, the first time. -/
def refusing : Devices where
  keypad := { keymap := Keymap.conventional }
  beeper := { speaker := { beepAnswers := [some "no speaker"] } }

/-- A key goes down and up while a core draws and sounds. -/
def busy : List Op := [
  .keypad (.press 'z'), .call .enableSound, .call (.debugByte 0x2a), .call (.togglePixel 3 2),
  .call .consumeKey, .call .randomByte, .call .enableSound, .screen .present,
  .keypad (.release 'z'), .collectFault]

/-- The same, part by part. -/
def busyByPart : List Op := [
  .call (.debugByte 0x2a), .call .randomByte, .call .enableSound, .call .enableSound,
  .collectFault, .call (.togglePixel 3 2), .screen .present, .keypad (.press 'z'),
  .call .consumeKey, .keypad (.release 'z')]

/-- The order does not matter, and neither does the refusal to the picture.  What is shown
for debugging can be left out. -/
theorem parts_are_independent_busy :
    (∀ part : Part, part.replies (refusing.record busy) = part.replies (refusing.record busyByPart))
      ∧ (∃ log, refusing.after busy = { refusing.after busyByPart with log })
      ∧ (refusing.after (busy.take 2)).fault = some (.audio "no speaker")
      ∧ (refusing.after busy).screen
        = (({ refusing with beeper := {} } : Devices).after busy).screen
      ∧ refusing.after busy = refusing.after (busy.filter fun op => op.part ≠ .debug) := by
  obtain ⟨_, shuffled, loudly, debugging⟩ := parts_are_independent refusing
  have same : ∀ part : Part, part.ops busy = part.ops busyByPart := by
    intro part
    cases part <;> rfl
  obtain ⟨replies, left⟩ := shuffled busy busyByPart same
  have picture := (loudly {} none busy .screen (by decide)).2
  have shown : ∀ op ∈ busy, decide (op.part ≠ .debug) = false → op.part = .debug :=
    fun op _ fails => Decidable.not_not.1 (of_decide_eq_false fails)
  obtain ⟨_, _, quiet⟩ := debugging busy _ (.filter shown)
  exact ⟨replies, left, rfl, picture.symm, quiet rfl⟩

end Devices

end Chip8Console
