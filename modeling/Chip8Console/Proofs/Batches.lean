import Chip8Console.Proofs.Expiry
import Chip8Console.Proofs.MissedStrikes
import Chip8Console.Proofs.Omissions
import Chip8Console.Proofs.Playing

/-!
# Events in batches

Waiting events are taken in one after another, and then what has expired is released.
So a batch comes to its key events with one release at the end, and what tells two
batches from one is only the release between them.  If that drops no key it does
nothing.  Then it is of no account where the events are cut.

A request to quit stops nothing.  The events after it are taken in as well, and it is
enough to ask once.  What strikes no key may be left out.

* `Tracking.drain`: a batch of waiting events is taken in.
* `Tracking.drain_eq_after`: it comes to its key events and a release.
* `Tracking.Keeps`: the release at the end of a batch drops no key.
* `Tracking.drainAll_of_keepsEach`: batches in a row.
* `Tracking.batches_join`: the main statement.
-/

namespace Chip8Console

/-- A request to quit, or something that gives no character. -/
def TerminalEvent.TypesNothing : TerminalEvent → Prop
  | .key event => event.AsksToQuit ∨ ∀ c, event.code ≠ .char c
  | .mouse | .resize _ _ => True

/-- It is for no key. -/
theorem TerminalEvent.TypesNothing.not_strikes {event : KeyEvent} {key : Char}
    (nothing : TypesNothing (.key event)) : ¬ event.Strikes key := by
  rintro ⟨c, code, _, typed⟩
  rcases nothing with (escape | ⟨small, control⟩) | other
  · rw [escape] at code
    cases code
  · rw [small] at code
    cases code
    exact typed ⟨rfl, control⟩
  · exact other c code

/-- Events that wait together, each with the time at which it is taken in. -/
structure Batch where
  events : List (Nat × TerminalEvent)
  /-- The time of the release after them. -/
  release : Nat

namespace KeyTracker

/-- Events are taken in one after another. -/
theorem handleAll_append (t : KeyTracker) (p : Keypad)
    (first second : List (Nat × TerminalEvent)) :
    t.handleAll p (first ++ second)
      = let (outcomes, t, p) := t.handleAll p first
        let (others, t, p) := t.handleAll p second
        (outcomes ++ others, t, p) := by
  induction first generalizing t p with
  | nil => rfl
  | cons entry rest ih =>
    obtain ⟨now, event⟩ := entry
    cases event with
    | mouse => exact ih t p
    | resize columns rows => exact ih t p
    | key event => simp only [List.cons_append, handleAll, ih]

end KeyTracker

namespace Tracking

/-! ## One batch -/

/-- The key events among waiting events, in their order. -/
def keyEvents : List (Nat × TerminalEvent) → List Event
  | [] => []
  | (_, .mouse) :: rest | (_, .resize _ _) :: rest => keyEvents rest
  | (now, .key event) :: rest => .key event now :: keyEvents rest

theorem keyEvents_append (first second : List (Nat × TerminalEvent)) :
    keyEvents (first ++ second) = keyEvents first ++ keyEvents second := by
  induction first with
  | nil => rfl
  | cons entry rest ih =>
    obtain ⟨now, event⟩ := entry
    cases event with
    | mouse => exact ih
    | resize columns rows => exact ih
    | key event => exact congrArg (Event.key event now :: ·) ih

variable (s : Tracking)

/-- What came of each key event of a batch, and what the batch leaves behind. -/
def drain (batch : Batch) : List KeyOutcome × Tracking :=
  let (outcomes, tracker, keypad) := s.tracker.drain s.keypad batch.events batch.release
  (outcomes, ⟨tracker, keypad⟩)

theorem after_append (earlier later : List Event) :
    s.after (earlier ++ later) = (s.after earlier).after later :=
  List.foldl_append

theorem handleAll_eq_after (events : List (Nat × TerminalEvent)) :
    (s.tracker.handleAll s.keypad events).2
      = ((s.after (keyEvents events)).tracker, (s.after (keyEvents events)).keypad) := by
  induction events generalizing s with
  | nil => rfl
  | cons entry rest ih =>
    obtain ⟨now, event⟩ := entry
    cases event with
    | mouse => exact ih s
    | resize columns rows => exact ih s
    | key event => exact ih (s.perform (.key event now))

/-- All key events are applied in their order, and then comes the release. -/
theorem drain_eq_after (batch : Batch) :
    (s.drain batch).2 = s.after (keyEvents batch.events ++ [.expire batch.release]) := by
  have left := s.handleAll_eq_after batch.events
  rw [after_append, drain, KeyTracker.drain]
  generalize s.tracker.handleAll s.keypad batch.events = taken at left ⊢
  obtain ⟨outcomes, tracker, keypad⟩ := taken
  cases left
  rfl

/-- Each key event has its outcome before the release. -/
theorem outcomes_drain (batch : Batch) :
    (s.drain batch).1 = (s.tracker.handleAll s.keypad batch.events).1 := rfl

/-- Someone asked to quit exactly if an event does. -/
theorem quit_mem_drain {s : Tracking} {batch : Batch} :
    .quit ∈ (s.drain batch).1
      ↔ ∃ time event, (time, .key event) ∈ batch.events ∧ event.AsksToQuit :=
  KeyTracker.quit_mem_handleAll

/-- What types nothing may be left out. -/
theorem after_keyEvents_of_omits {events kept : List (Nat × TerminalEvent)}
    (omits : Omits (fun entry => entry.2.TypesNothing) events kept) :
    s.after (keyEvents kept) = s.after (keyEvents events) := by
  induction omits generalizing s with
  | nil => rfl
  | @keep entry _ _ _ ih =>
    obtain ⟨now, event⟩ := entry
    cases event with
    | mouse => exact ih s
    | resize columns rows => exact ih s
    | key event => exact ih (s.perform (.key event now))
  | @leaveOut entry _ _ nothing _ ih =>
    obtain ⟨now, event⟩ := entry
    cases event with
    | mouse => exact ih s
    | resize columns rows => exact ih s
    | key event =>
      have same : s.perform (.key event now) = s :=
        perform_of_unbound (fun _ strikes => absurd strikes nothing.not_strikes) now
      rw [ih s]
      exact congrArg (fun next => after next _) same.symm

/-! ## Batches in a row -/

/-- The release after a batch drops no key. -/
def Keeps (batch : Batch) : Prop :=
  ∀ key, ¬ (s.after (keyEvents batch.events)).Drops (.expire batch.release) key

/-- A release that drops no key does nothing. -/
theorem perform_expire_of_kept {s : Tracking} {now : Nat}
    (kept : ∀ key, ¬ s.Drops (.expire now) key) : s.perform (.expire now) = s := by
  have young : s.tracker.expiredKeys now = [] := by
    rw [List.eq_nil_iff_forall_not_mem]
    intro key expired
    exact kept key (mem_expiredKeys_iff_drops.1 expired)
  rw [expire_eq_letGo, young, letGo_nil]

/-- Then a batch comes to its key events alone. -/
theorem drain_of_keeps {s : Tracking} {batch : Batch} (keeps : s.Keeps batch) :
    (s.drain batch).2 = s.after (keyEvents batch.events) := by
  rw [drain_eq_after, after_append]
  exact perform_expire_of_kept keeps

/-- Batches are taken in one after another. -/
def drainAll (batches : List Batch) : Tracking :=
  batches.foldl (fun s batch => (s.drain batch).2) s

/-- No release after any of the batches drops a key. -/
def KeepsEach (s : Tracking) : List Batch → Prop
  | [] => True
  | batch :: rest => s.Keeps batch ∧ (s.drain batch).2.KeepsEach rest

/-- Then they come to their key events alone. -/
theorem drainAll_of_keepsEach {s : Tracking} {batches : List Batch} (keeps : s.KeepsEach batches) :
    s.drainAll batches = s.after (keyEvents (batches.flatMap Batch.events)) := by
  induction batches generalizing s with
  | nil => rfl
  | cons batch rest ih =>
    obtain ⟨first, others⟩ := keeps
    show (s.drain batch).2.drainAll rest = _
    rw [ih others, drain_of_keeps first, List.flatMap_cons, keyEvents_append, after_append]

/-- **Batches join.**  Take any table and any keypad.  If the release after a first batch
drops no key, taking it in and then a second one leaves the same table and the same
keypad as taking in all events at once, and each key event comes to the same.  So it is
with any number of batches, if no release but the last drops a key.  Whatever is
dropped, the whole asks to quit exactly if one of the parts does.  A batch asks to quit
exactly if it has an escape or a small `c` with the control key.  All its key events are
applied, those after a request to quit as well.  Requests to quit, keys without a
character and what is no key may be left out. -/
theorem batches_join (s : Tracking) :
    (∀ first second : Batch, s.Keeps first →
        ((s.drain first).2.drain second).2
            = (s.drain ⟨first.events ++ second.events, second.release⟩).2
          ∧ (s.drain ⟨first.events ++ second.events, second.release⟩).1
            = (s.drain first).1 ++ ((s.drain first).2.drain second).1)
      ∧ (∀ (batches : List Batch) (last : Batch), s.KeepsEach batches →
        s.drainAll (batches ++ [last])
          = (s.drain ⟨batches.flatMap Batch.events ++ last.events, last.release⟩).2)
      ∧ (∀ first second : Batch,
        .quit ∈ (s.drain ⟨first.events ++ second.events, second.release⟩).1
          ↔ .quit ∈ (s.drain first).1 ∨ .quit ∈ ((s.drain first).2.drain second).1)
      ∧ (∀ batch : Batch, .quit ∈ (s.drain batch).1
        ↔ ∃ time event, (time, .key event) ∈ batch.events ∧ event.AsksToQuit)
      ∧ (∀ batch : Batch,
        (s.drain batch).2 = s.after (keyEvents batch.events ++ [.expire batch.release]))
      ∧ ∀ (events kept : List (Nat × TerminalEvent)) (release : Nat),
        Omits (fun entry => entry.2.TypesNothing) events kept →
          (s.drain ⟨kept, release⟩).2 = (s.drain ⟨events, release⟩).2 := by
  refine ⟨?_, ?_, ?_, fun batch => quit_mem_drain, s.drain_eq_after, ?_⟩
  · intro first second keeps
    have left := drain_of_keeps keeps
    constructor
    · rw [left, drain_eq_after, drain_eq_after, ← after_append, keyEvents_append,
        List.append_assoc]
    · have between := s.handleAll_eq_after first.events
      rw [← left] at between
      rw [outcomes_drain, outcomes_drain, outcomes_drain, KeyTracker.handleAll_append]
      simp only [between]
  · intro batches last keeps
    have append : s.drainAll (batches ++ [last]) = ((s.drainAll batches).drain last).2 :=
      List.foldl_concat ..
    rw [append, drainAll_of_keepsEach keeps, drain_eq_after, drain_eq_after, ← after_append,
      keyEvents_append, List.append_assoc]
  · intro first second
    simp only [quit_mem_drain, List.mem_append, or_and_right, exists_or]
  · intro events kept release omits
    rw [drain_eq_after, drain_eq_after, after_append, after_append,
      s.after_keyEvents_of_omits omits]

/-- Two keys are struck, and someone asks to quit in between. -/
def hurried : Batch where
  events := [(0, .key (strikeOf 'w')), (5, .key { code := .escape }), (8, .key (strikeOf 'q'))]
  release := 50

/-- One of them is struck again before its hold time is over. -/
def patient : Batch := ⟨[(60, .key (strikeOf 'w')), (70, .mouse)], 110⟩

/-- They are taken in as one batch, and of that only the strikes are of account. -/
theorem batches_join_hurried :
    ((untouched.drain hurried).2.drain patient).2
        = (untouched.drain ⟨hurried.events ++ patient.events, 110⟩).2
      ∧ .quit ∈ (untouched.drain ⟨hurried.events ++ patient.events, 110⟩).1
      ∧ (untouched.drain ⟨[(0, .key (strikeOf 'w')), (8, .key (strikeOf 'q')),
          (60, .key (strikeOf 'w'))], 110⟩).2
        = (untouched.drain ⟨hurried.events ++ patient.events, 110⟩).2 := by
  obtain ⟨cut, _, either, asked, _, leaveOut⟩ := batches_join untouched
  have keeps : untouched.Keeps hurried := by
    rintro key ⟨time, _, old⟩
    have late : 100 ≤ 50 - time := old
    omega
  refine ⟨(cut hurried patient keeps).1, ?_, ?_⟩
  · have asks : KeyEvent.AsksToQuit { code := .escape } := .inl rfl
    refine (either hurried patient).2 (.inl ((asked hurried).2 ⟨5, _, ?_, asks⟩))
    exact List.mem_cons_of_mem _ List.mem_cons_self
  · refine leaveOut _ _ 110 ?_
    exact .keep (.leaveOut (.inl (.inl rfl)) (.keep (.keep (.leaveOut trivial .nil))))

/-- A release in between that drops a key is of account.  The press after it stays in the
latch, and a release after that press takes it out. -/
example :
    let late : Batch := ⟨[(104, .key (strikeOf 'e'))], 106⟩
    ((untouched.drain ⟨hurried.events, 100⟩).2.drain late).2.keypad.latched = some 6
      ∧ (untouched.drain ⟨hurried.events ++ late.events, 106⟩).2.keypad.latched = none := by
  decide

end Tracking

end Chip8Console
