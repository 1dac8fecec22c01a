import Chip8Console.Console

/-!
# Visits of the core

A *visit* is one call of an entry point of a core, seen from outside.  It keeps
which entry point was called, what the core asked of the devices and was
answered, what it ended with, and which requests reached the speaker meanwhile.

A refresh that processes a frame enters the core along a *schedule*: the timers,
and then as many cycles as the budget has.  It leaves the schedule after the
first visit that fails or asks to stop.  `Machine.walk` follows a schedule in
that way and keeps every visit.

* `Machine.frame_eq_walk`: a frame is a walk along its schedule, and then the
  back plane is presented unless the walk failed.
* `Machine.walk_ok`: where a walk ends that does not fail.
* `Machine.across_walk`: what holds across every call of a core holds across a walk.
* `Machine.view_walk`: what no call of a core changes, a walk does not change.
* `Pacer.refresh_of_due`, `Pacer.refresh_of_not_due`: a refresh processes a frame
  if one is due, and otherwise leaves the machine alone.
-/

namespace Chip8Console

universe u v

/-! ## One visit -/

/-- The entry points of a core. -/
inductive Entry where
  /-- Count the timers down. -/
  | tick
  /-- Execute one instruction. -/
  | cycle
  deriving DecidableEq

/-- A call that a core made, with the answer it got. -/
structure Exchange where
  call : DeviceCall
  answer : call.Answer

/-- One call of an entry point. -/
structure Visit where
  entry : Entry
  /-- What the core asked of the devices, in order, and was answered. -/
  exchanges : List Exchange
  /-- The core's own result.  A tick never asks to stop. -/
  result : Except CoreFault Bool
  /-- The requests that reached the speaker meanwhile, in order. -/
  requests : List SpeakerCall

namespace Routine

/-- The calls that a routine makes, each with its answer. -/
def exchanges {α : Type u} : Routine α → Devices → List Exchange
  | .done _, _ => []
  | .call c next, d => ⟨c, (d.answer c).1⟩ :: (next (d.answer c).1).exchanges (d.answer c).2

theorem run_bind {α : Type u} {β : Type v} (routine : Routine α) (after : α → Routine β)
    (d : Devices) :
    (routine.bind after).run d = (after (routine.run d).1).run (routine.run d).2 := by
  induction routine generalizing d with
  | done result => rfl
  | call c next ih => exact ih (d.answer c).1 (d.answer c).2

theorem exchanges_bind {α : Type u} {β : Type v} (routine : Routine α) (after : α → Routine β)
    (d : Devices) :
    (routine.bind after).exchanges d
      = routine.exchanges d ++ (after (routine.run d).1).exchanges (routine.run d).2 := by
  induction routine generalizing d with
  | done result => rfl
  | call c next ih => exact congrArg _ (ih (d.answer c).1 (d.answer c).2)

end Routine

namespace Devices

/-- The requests on the speaker's record that were not there before. -/
def requestsSince (after before : Devices) : List SpeakerCall :=
  after.beeper.speaker.calls.toList.drop before.beeper.speaker.calls.size

end Devices

variable {σ : Type u}

/-- The routine behind an entry point.  A tick counts as going on. -/
def Entry.point [Interpreter σ] : Entry → EntryPoint σ Bool
  | .tick => fun core =>
      (Interpreter.tick core).bind fun (result, core) => .done (result.map fun _ => false, core)
  | .cycle => Interpreter.cycle

namespace Machine

variable [Interpreter σ]

/-- What there is to see of a call of an entry point. -/
def visit (m : Machine σ) (entry : Entry) : Visit :=
  let ((result, _), devices) := (entry.point m.core).run m.devices
  { entry
    exchanges := (entry.point m.core).exchanges m.devices
    result
    requests := devices.requestsSince m.devices }

/-- A core that gives up leaves the devices as they are. -/
theorem enter_of_error {m : Machine σ} {entry : Entry} {fault : CoreFault}
    (gaveUp : (m.visit entry).result = .error fault) :
    m.enter entry.point
      = (.error (.core fault), ⟨((entry.point m.core).run m.devices).1.2,
          ((entry.point m.core).run m.devices).2⟩) := by
  have seen : ((entry.point m.core).run m.devices).1.1 = .error fault := gaveUp
  rcases ended : (entry.point m.core).run m.devices with ⟨⟨result, core⟩, devices⟩
  rw [ended] at seen
  cases seen
  rw [enter, ended]

/-- After a core that does not, the parked fault is taken. -/
theorem enter_of_ok {m : Machine σ} {entry : Entry} {stop : Bool}
    (went : (m.visit entry).result = .ok stop) :
    m.enter entry.point
      = (match ((entry.point m.core).run m.devices).2.fault with
          | some failure => .error failure
          | none => .ok stop,
        ⟨((entry.point m.core).run m.devices).1.2,
          { ((entry.point m.core).run m.devices).2 with fault := none }⟩) := by
  have seen : ((entry.point m.core).run m.devices).1.1 = .ok stop := went
  rcases ended : (entry.point m.core).run m.devices with ⟨⟨result, core⟩, devices⟩
  rw [ended] at seen
  cases seen
  simp only [enter, ended, Devices.collectFault]
  cases devices.fault <;> rfl

/-- If none is parked, that is all. -/
theorem enter_of_unparked {m : Machine σ} {entry : Entry} {stop : Bool} {core : Core σ}
    {after : Devices} (ran : (entry.point m.core).run m.devices = ((.ok stop, core), after))
    (unparked : after.fault = none) : m.enter entry.point = (.ok stop, ⟨core, after⟩) := by
  have went : (m.visit entry).result = .ok stop := by rw [visit, ran]
  rw [enter_of_ok went, ran]
  simp only [unparked]
  rw [← unparked]

theorem enter_tick (m : Machine σ) :
    m.enter Entry.tick.point
      = ((m.enter Interpreter.tick).1.map fun _ => false, (m.enter Interpreter.tick).2) := by
  have run : (Entry.tick.point m.core).run m.devices
      = (((((Interpreter.tick m.core).run m.devices).1.1.map fun _ => false),
          ((Interpreter.tick m.core).run m.devices).1.2),
        ((Interpreter.tick m.core).run m.devices).2) :=
    Routine.run_bind _ _ _
  rcases ended : (Interpreter.tick m.core).run m.devices with ⟨⟨result, core⟩, devices⟩
  rw [ended] at run
  cases result with
  | error fault => simp [enter, ended, run, Except.map]
  | ok value =>
    rcases collected : devices.collectFault with ⟨fault, devices'⟩
    cases fault <;> simp [enter, ended, run, collected, Except.map]

end Machine

/-! ## Walks -/

/-- The schedule of a frame with a given budget of cycles. -/
def frameSchedule (budget : Nat) : List Entry := .tick :: List.replicate budget .cycle

/-- A way along a schedule. -/
structure Walk (σ : Type u) where
  /-- The visits, in order. -/
  visits : List Visit
  /-- The failure that ended the walk, or whether a visit asked to stop. -/
  outcome : Except Failure Bool
  /-- The machine that the last visit left. -/
  last : Machine σ

namespace Machine

variable [Interpreter σ]

/-- Enters the core by the entry points of a schedule in turn, up to the first
visit that fails or asks to stop. -/
def walk : Machine σ → List Entry → Walk σ
  | m, [] => ⟨[], .ok false, m⟩
  | m, entry :: rest =>
      match m.enter entry.point with
      | (.ok false, next) =>
          let onward := next.walk rest
          ⟨m.visit entry :: onward.visits, onward.outcome, onward.last⟩
      | (.ok true, next) => ⟨[m.visit entry], .ok true, next⟩
      | (.error failure, next) => ⟨[m.visit entry], .error failure, next⟩

theorem walk_nil (m : Machine σ) : m.walk [] = ⟨[], .ok false, m⟩ := rfl

theorem walk_onward {m next : Machine σ} {entry : Entry} (rest : List Entry)
    (entered : m.enter entry.point = (.ok false, next)) :
    m.walk (entry :: rest)
      = ⟨m.visit entry :: (next.walk rest).visits, (next.walk rest).outcome,
          (next.walk rest).last⟩ := by
  rw [walk, entered]

theorem walk_stopped {m next : Machine σ} {entry : Entry} (rest : List Entry)
    (entered : m.enter entry.point = (.ok true, next)) :
    m.walk (entry :: rest) = ⟨[m.visit entry], .ok true, next⟩ := by
  rw [walk, entered]

theorem walk_failed {m next : Machine σ} {entry : Entry} {failure : Failure} (rest : List Entry)
    (entered : m.enter entry.point = (.error failure, next)) :
    m.walk (entry :: rest) = ⟨[m.visit entry], .error failure, next⟩ := by
  rw [walk, entered]

/-- A walk goes on after its first visit, or the visit is all there is to it. -/
theorem walk_cons (m : Machine σ) (entry : Entry) (rest : List Entry) :
    (∃ next, m.enter entry.point = (.ok false, next)
        ∧ m.walk (entry :: rest)
          = ⟨m.visit entry :: (next.walk rest).visits, (next.walk rest).outcome,
              (next.walk rest).last⟩)
      ∨ m.walk (entry :: rest)
        = ⟨[m.visit entry], (m.enter entry.point).1, (m.enter entry.point).2⟩ := by
  rcases entered : m.enter entry.point with ⟨outcome, next⟩
  cases outcome with
  | error failure => exact .inr (walk_failed rest entered)
  | ok stop =>
    cases stop with
    | true => exact .inr (walk_stopped rest entered)
    | false => exact .inl ⟨next, rfl, walk_onward rest entered⟩

/-- A walk that has somewhere to go makes its first visit. -/
theorem visits_walk_cons (m : Machine σ) (entry : Entry) (rest : List Entry) :
    ∃ later, (m.walk (entry :: rest)).visits = m.visit entry :: later := by
  rcases m.walk_cons entry rest with ⟨next, _, onward⟩ | ended
  · exact ⟨_, by rw [onward]⟩
  · exact ⟨[], by rw [ended]⟩

/-- Running cycles is walking along a schedule of cycles. -/
theorem runCycles_eq_walk (left ran : Nat) (m : Machine σ) :
    m.runCycles left ran
      = ((m.walk (List.replicate left .cycle)).outcome.map fun early =>
            (ran + (m.walk (List.replicate left .cycle)).visits.length, early),
          (m.walk (List.replicate left .cycle)).last) := by
  induction left generalizing ran m with
  | zero => rfl
  | succ left ih =>
    rw [List.replicate_succ, runCycles]
    rcases entered : m.enter Interpreter.cycle with ⟨outcome, next⟩
    cases outcome with
    | error failure =>
      rw [walk_failed _ entered]
      rfl
    | ok stop =>
      cases stop with
      | true =>
        rw [walk_stopped _ entered]
        rfl
      | false =>
        rw [walk_onward _ entered]
        simp only [ih, List.length_cons, Nat.add_assoc, Nat.add_comm 1]

/-- The timers never ask to stop. -/
theorem enter_tick_ne_stop (m : Machine σ) : (m.enter Entry.tick.point).1 ≠ .ok true := by
  rw [enter_tick]
  cases (m.enter Interpreter.tick).1 with
  | error failure => simp [Except.map]
  | ok value => simp [Except.map]

/-- A frame is a walk along its schedule.  Then the back plane is presented,
unless the walk failed. -/
theorem frame_eq_walk (m : Machine σ) (budget : Nat) :
    m.frame budget
      = match (m.walk (frameSchedule budget)).outcome with
        | .ok early =>
            (.ok (.frame ((m.walk (frameSchedule budget)).visits.length - 1) early),
              (m.walk (frameSchedule budget)).last.present)
        | .error failure => (.error failure, (m.walk (frameSchedule budget)).last) := by
  rw [frame, frameSchedule]
  have start := m.enter_tick
  rcases ticked : m.enter Interpreter.tick with ⟨outcome, next⟩
  rw [ticked] at start
  cases outcome with
  | error failure => rw [walk_failed _ start]
  | ok value =>
    rw [walk_onward _ start]
    simp only [runCycles_eq_walk, List.length_cons, Nat.add_sub_cancel, Nat.zero_add]
    cases (next.walk (List.replicate budget .cycle)).outcome with
    | error failure => rfl
    | ok early => rfl

/-! ## Where a walk ends -/

/-- What an entered core answers is the core's own result. -/
theorem result_visit {m next : Machine σ} {entry : Entry} {stop : Bool}
    (entered : m.enter entry.point = (.ok stop, next)) : (m.visit entry).result = .ok stop := by
  cases ended : (m.visit entry).result with
  | error fault =>
    rw [enter_of_error ended] at entered
    cases entered
  | ok answer =>
    rw [enter_of_ok ended] at entered
    cases parked : ((entry.point m.core).run m.devices).2.fault with
    | some failure =>
      rw [parked] at entered
      cases entered
    | none =>
      rw [parked] at entered
      cases entered
      rfl

/-- A walk that does not fail either goes through the whole schedule and is
never asked to stop, or ends at the first visit that asks. -/
theorem walk_ok {m : Machine σ} {entries : List Entry} {stop : Bool}
    (ended : (m.walk entries).outcome = .ok stop) :
    (stop = false ∧ (m.walk entries).visits.map Visit.entry = entries
        ∧ ∀ v ∈ (m.walk entries).visits, v.result = .ok false)
      ∨ (stop = true ∧ ∃ earlier final rest, (m.walk entries).visits = earlier ++ [final]
          ∧ entries = earlier.map Visit.entry ++ final.entry :: rest
          ∧ (∀ v ∈ earlier, v.result = .ok false) ∧ final.result = .ok true) := by
  induction entries generalizing m with
  | nil =>
    cases ended
    exact .inl ⟨rfl, rfl, by simp [walk_nil]⟩
  | cons entry rest ih =>
    rcases entered : m.enter entry.point with ⟨outcome, next⟩
    cases outcome with
    | error failure =>
      rw [walk_failed _ entered] at ended
      cases ended
    | ok asked =>
      have result := result_visit entered
      cases asked with
      | true =>
        rw [walk_stopped _ entered] at ended ⊢
        cases ended
        exact .inr ⟨rfl, [], m.visit entry, rest, rfl, rfl, by simp, result⟩
      | false =>
        rw [walk_onward _ entered] at ended ⊢
        rcases ih ended with ⟨whole, same, each⟩ | ⟨asked, earlier, final, rest', visits, split, each, last⟩
        · refine .inl ⟨whole, by rw [List.map_cons, same]; rfl, ?_⟩
          intro v member
          rcases List.mem_cons.1 member with rfl | member
          · exact result
          · exact each v member
        · refine .inr ⟨asked, m.visit entry :: earlier, final, rest', by rw [visits]; rfl,
            by rw [split]; rfl, ?_, last⟩
          intro v member
          rcases List.mem_cons.1 member with rfl | member
          · exact result
          · exact each v member

theorem entries_walk_prefix (m : Machine σ) (entries : List Entry) :
    (m.walk entries).visits.map Visit.entry <+: entries := by
  induction entries generalizing m with
  | nil => exact List.prefix_rfl
  | cons entry rest ih =>
    rcases m.walk_cons entry rest with ⟨next, _, onward⟩ | ended
    · rw [onward]
      exact (List.prefix_cons_inj entry).2 (ih next)
    · rw [ended]
      exact (List.prefix_cons_inj entry).2 List.nil_prefix

end Machine

/-! ## What a core does to the devices

A relation between earlier and later devices that composes holds across a walk
if it holds across every call of a core and across the collection of a fault. -/

section Across

variable {R : Devices → Devices → Prop}
variable (refl : ∀ d, R d d) (trans : ∀ {d e f}, R d e → R e f → R d f)
variable (answer : ∀ d c, R d (Devices.answer d c).2)
include refl trans answer

theorem Routine.across_run {α : Type u} (routine : Routine α) (d : Devices) :
    R d (routine.run d).2 := by
  induction routine generalizing d with
  | done result => exact refl d
  | call c next ih => exact trans (answer d c) (ih (d.answer c).1 (d.answer c).2)

variable [Interpreter σ]
variable (collect : ∀ d, R d (Devices.collectFault d).2)
include collect

theorem Machine.across_enter (m : Machine σ) (entry : Entry) :
    R m.devices (m.enter entry.point).2.devices := by
  have ran := Routine.across_run refl trans answer (entry.point m.core) m.devices
  cases ended : (m.visit entry).result with
  | error fault =>
    rw [enter_of_error ended]
    exact ran
  | ok stop =>
    rw [enter_of_ok ended]
    exact trans ran (collect _)

theorem Machine.across_walk (m : Machine σ) (entries : List Entry) :
    R m.devices (m.walk entries).last.devices := by
  induction entries generalizing m with
  | nil => exact refl m.devices
  | cons entry rest ih =>
    have entered := Machine.across_enter refl trans answer collect m entry
    rcases m.walk_cons entry rest with ⟨next, same, onward⟩ | ended
    · rw [onward]
      rw [same] at entered
      exact trans entered (ih next)
    · rw [ended]
      exact entered

end Across

/-- A walk leaves alone what every call of a core and the collection of a fault
leave alone. -/
theorem Machine.view_walk {β : Type v} (view : Devices → β) [Interpreter σ]
    (answer : ∀ d c, view (Devices.answer d c).2 = view d)
    (collect : ∀ d, view (Devices.collectFault d).2 = view d) (m : Machine σ)
    (entries : List Entry) : view (m.walk entries).last.devices = view m.devices :=
  Machine.across_walk (R := fun d e => view e = view d) (fun _ => rfl)
    (fun earlier later => later.trans earlier) answer collect m entries

/-! ## Refreshes -/

namespace Pacer

/-- The time since the last frame, if a refresh at the given time processes one. -/
def due? (p : Pacer) (time : Binary64) : Option Binary64 :=
  if time.isFinite then
    match p.lastTime with
    | none => none
    | some last => if (time.sub last).lt p.interval then none else some (time.sub last)
  else none

/-- What a refresh that processes no frame answers, and the pacer it leaves. -/
def pass (p : Pacer) (time : Binary64) : RefreshOutcome × Pacer :=
  if time.isFinite && p.isIdle then (.started, { p with lastTime := some time })
  else (.waiting, p)

/-- The schedule of a refresh.  It is empty if no frame is due. -/
def schedule (p : Pacer) (time : Binary64) : List Entry :=
  match p.due? time with
  | none => []
  | some elapsed => frameSchedule (p.budget.cycles elapsed)

variable [Interpreter σ]

/-- The visits of a refresh. -/
def visits (p : Pacer) (time : Binary64) (m : Machine σ) : List Visit :=
  (m.walk (p.schedule time)).visits

theorem refresh_of_not_due {p : Pacer} {time : Binary64} (early : p.due? time = none)
    (m : Machine σ) :
    p.refresh time m = (.ok (p.pass time).1, (p.pass time).2, m) := by
  unfold due? at early
  unfold refresh pass isIdle
  cases finite : time.isFinite with
  | false => simp
  | true =>
    cases recorded : p.lastTime with
    | none => simp
    | some last =>
      simp only [finite, recorded, if_true] at early
      simp only [if_true, Option.isNone_some, Bool.and_false, Bool.false_eq_true, if_false]
      split
      · rfl
      · next due => simp [due] at early

theorem refresh_of_due {p : Pacer} {time elapsed : Binary64} (due : p.due? time = some elapsed)
    (m : Machine σ) :
    p.refresh time m
      = ((m.frame (p.budget.cycles elapsed)).1, { p with lastTime := some time },
          (m.frame (p.budget.cycles elapsed)).2) := by
  unfold due? at due
  unfold refresh
  cases finite : time.isFinite with
  | false => simp [finite] at due
  | true =>
    cases recorded : p.lastTime with
    | none => simp [finite, recorded] at due
    | some last =>
      simp only [finite, recorded, if_true] at due ⊢
      split at due
      · cases due
      · next late =>
        cases due
        simp [late]

/-- A refresh whose walk does not fail succeeds.  It leaves behind what the walk
left, or presents it. -/
theorem refresh_of_walk_ok {p : Pacer} {time : Binary64} {m : Machine σ} {early : Bool}
    (ended : (m.walk (p.schedule time)).outcome = .ok early) :
    ∃ outcome, (p.refresh time m).1 = .ok outcome
      ∧ ((p.refresh time m).2.2 = (m.walk (p.schedule time)).last
        ∨ (p.refresh time m).2.2 = (m.walk (p.schedule time)).last.present) := by
  unfold schedule at ended ⊢
  cases due : p.due? time with
  | none =>
    rw [refresh_of_not_due due]
    exact ⟨_, rfl, .inl rfl⟩
  | some elapsed =>
    rw [due] at ended
    rw [refresh_of_due due, Machine.frame_eq_walk, ended]
    exact ⟨_, rfl, .inr rfl⟩

/-- A refresh whose walk fails fails with it.  Its time is recorded all the same. -/
theorem refresh_of_walk_error {p : Pacer} {time : Binary64} {m : Machine σ} {failure : Failure}
    (ended : (m.walk (p.schedule time)).outcome = .error failure) :
    p.refresh time m
      = (.error failure, { p with lastTime := some time }, (m.walk (p.schedule time)).last) := by
  unfold schedule at ended ⊢
  cases due : p.due? time with
  | none =>
    rw [due] at ended
    cases ended
  | some elapsed =>
    rw [due] at ended
    rw [refresh_of_due due, Machine.frame_eq_walk, ended]

end Pacer

namespace Console

variable [Interpreter σ]

/-- The visits of an operation.  Only a refresh of a running session has any. -/
def visits (c : Console σ) : Op σ → List Visit
  | .refresh time =>
      match c.session with
      | .running core => c.pacer.visits time ⟨core, c.devices⟩
      | _ => []
  | _ => []

end Console

end Chip8Console
