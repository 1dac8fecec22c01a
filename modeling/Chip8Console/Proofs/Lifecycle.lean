import Chip8Console.Proofs.Runs
import Mathlib.Data.List.Induction

/-!
# The life of a session

A session begins with a load that succeeds.  It ends when it is stopped, when a
refresh fails, or with the next load, whether that succeeds or not.  A load whose
program cannot be read does not count as one.

After its end nothing is held, latched, timed or sounding.  Refreshes answer
that there is no session until a load succeeds, and no core is entered.  A new
session is timed from its own first refresh.

Whenever a core is entered, it goes back to the core which the last load brought,
and the session has not ended since.  So nobody comes back to a core whose
session is over.

* `Console.begins`, `Console.ends`: the operations that begin or end a session.
* `Console.Over`: what is left of a session.
* `Core.Descends`: calls of entry points make the one core of the other.
* `Console.perform_of_not_ends`, `Console.goesBack_of_running`: what an operation
  keeps of a session that goes on, and what a run does.
* `Console.session_lifecycle`: the main statement.
-/

namespace Chip8Console

universe u

variable {σ : Type u}

/-! ## Cores that are entered -/

/-- Calls of entry points make the later core of the earlier one. -/
inductive Core.Descends [Interpreter σ] (first : Core σ) : Core σ → Prop where
  | refl : first.Descends first
  | step {core : Core σ} (entry : Entry) (devices : Devices) (h : first.Descends core) :
      first.Descends ((entry.point core).run devices).1.2

theorem Core.Descends.trans [Interpreter σ] {a b c : Core σ} (h₁ : a.Descends b)
    (h₂ : b.Descends c) : a.Descends c := by
  induction h₂ with
  | refl => exact h₁
  | step entry devices _ ih => exact .step entry devices ih

namespace Machine

variable [Interpreter σ]

/-- The machines as a walk finds them when it enters the core. -/
def entered : Machine σ → List Entry → List (Machine σ)
  | _, [] => []
  | m, entry :: rest =>
      m :: match m.enter entry.point with
        | (.ok false, next) => next.entered rest
        | _ => []

theorem entered_cons (m : Machine σ) (entry : Entry) (rest : List Entry) :
    (∃ next, m.enter entry.point = (.ok false, next)
        ∧ m.entered (entry :: rest) = m :: next.entered rest
        ∧ m.walk (entry :: rest)
          = ⟨m.visit entry :: (next.walk rest).visits, (next.walk rest).outcome,
              (next.walk rest).last⟩)
      ∨ (m.entered (entry :: rest) = [m]
        ∧ m.walk (entry :: rest)
          = ⟨[m.visit entry], (m.enter entry.point).1, (m.enter entry.point).2⟩) := by
  rcases entered : m.enter entry.point with ⟨outcome, next⟩
  cases outcome with
  | error failure => exact .inr ⟨by rw [Machine.entered, entered], walk_failed rest entered⟩
  | ok stop =>
    cases stop with
    | true => exact .inr ⟨by rw [Machine.entered, entered], walk_stopped rest entered⟩
    | false =>
      exact .inl ⟨next, rfl, by rw [Machine.entered, entered], walk_onward rest entered⟩

theorem visits_eq_zipWith (m : Machine σ) (entries : List Entry) :
    (m.walk entries).visits = List.zipWith visit (m.entered entries) entries := by
  induction entries generalizing m with
  | nil => rfl
  | cons entry rest ih =>
    rcases m.entered_cons entry rest with ⟨next, _, machines, onward⟩ | ⟨machines, ended⟩
    · rw [onward, machines, List.zipWith_cons_cons, ih]
    · rw [ended, machines, List.zipWith_cons_cons, List.zipWith_nil_left]

/-- A walk enters descendants of its core and leaves one behind. -/
theorem descends_walk (m : Machine σ) (entries : List Entry) :
    (∀ n ∈ m.entered entries, m.core.Descends n.core)
      ∧ m.core.Descends (m.walk entries).last.core := by
  induction entries generalizing m with
  | nil => exact ⟨by simp [entered], .refl⟩
  | cons entry rest ih =>
    have step : m.core.Descends (m.enter entry.point).2.core := by
      have ran : m.core.Descends ((entry.point m.core).run m.devices).1.2 :=
        .step entry m.devices .refl
      cases result : (m.visit entry).result with
      | error fault => rwa [enter_of_error result]
      | ok stop => rwa [enter_of_ok result]
    rcases m.entered_cons entry rest with ⟨next, same, machines, onward⟩ | ⟨machines, ended⟩
    · rw [same] at step
      obtain ⟨each, last⟩ := ih next
      rw [machines, onward]
      exact ⟨List.forall_mem_cons.2 ⟨.refl, fun n member => step.trans (each n member)⟩,
        step.trans last⟩
    · rw [machines, ended]
      exact ⟨List.forall_mem_cons.2 ⟨.refl, by simp⟩, step⟩

end Machine

namespace Console

/-! ## The end of a session -/

/-- There is no session, and nothing is left of the last. -/
structure Over (c : Console σ) : Prop where
  stopped : c.isRunning = false
  idle : c.pacer.isIdle = true
  held : c.devices.keypad.heldIds = []
  latched : c.devices.keypad.latched = none
  silent : c.devices.isSounding = false

theorem over_stop (c : Console σ) : c.stop.2.Over where
  stopped := by
    rw [isRunning, session_stop]
    cases c.session with
    | none => rfl
    | running core => rfl
    | finished core => rfl
  idle := by
    rw [pacer_stop]
    rfl
  held := by
    rw [keypad_stop]
    rfl
  latched := by rw [keypad_stop, Keypad.reset]
  silent := by rw [Devices.isSounding, beeper_stop, Beeper.active_disable]

theorem Over.report {c : Console σ} (h : c.Over) (entries : List LogEntry) :
    (c.report entries).Over :=
  ⟨h.stopped, h.idle, h.held, h.latched, h.silent⟩

theorem over_of_load_failed {c : Console σ} {core : Core σ} {program : Bytes}
    (failed : (c.load core program).1.isOk = false) : (c.load core program).2.Over := by
  have gone := c.over_stop
  unfold load at failed ⊢
  rcases stopped : c.stop with ⟨outcome, rest⟩
  rw [stopped] at failed gone
  -- whatever fails, the session was stopped before
  cases outcome with
  | error refusal => exact gone
  | ok value =>
    rcases written : core.memory.install program with ⟨answer, memory⟩
    rw [written] at failed
    cases answer with
    | error tooLong => exact gone
    | ok value => cases failed

theorem untimed_of_load {c : Console σ} {core : Core σ} {program : Bytes}
    (went : (c.load core program).1.isOk = true) :
    (c.load core program).2.isRunning = true ∧ (c.load core program).2.pacer.isIdle = true := by
  rcases done : c.load core program with ⟨answer, loaded⟩
  rw [done] at went
  cases answer with
  | error failure => cases went
  | ok value =>
    have begun := begun_of_load done
    obtain ⟨memory, _, session⟩ := begun.installed
    refine ⟨isRunning_iff.2 ⟨_, session⟩, ?_⟩
    rw [begun.pacer]
    rfl

variable [Interpreter σ]

theorem over_of_refresh_error {c : Console σ} {time : Binary64} {failure : Failure}
    (failed : (c.refresh time).1 = .error failure) : (c.refresh time).2.Over := by
  cases on : c.isRunning with
  | false =>
    rw [(refresh_of_not_running on time).1] at failed
    cases failed
  | true =>
    obtain ⟨core, running⟩ := isRunning_iff.1 on
    cases ended : ((c.machine core).walk (c.pacer.schedule time)).outcome with
    | ok early =>
      obtain ⟨outcome, _, answered, _⟩ := refresh_of_walk_ok running ended
      rw [answered] at failed
      cases failed
    | error other =>
      obtain ⟨rest, said, entries, _, step⟩ := refresh_of_walk_error running ended
      rw [step]
      exact rest.over_stop.report entries

/-! ## Where sessions begin and end -/

/-- The operation is a load that succeeds. -/
def begins (c : Console σ) : Op σ → Bool
  | .load core program => (c.load core program).1.isOk
  | .loadFrom core source => (c.loadFrom core source).1.isOk
  | _ => false

/-- The operation ends a session if there is one.  A load does so before it can
fail, but for one whose program cannot be read. -/
def ends (c : Console σ) : Op σ → Bool
  | .load _ _ | .stop => true
  | .loadFrom _ source => source.readAll.isOk
  | .refresh time => !(c.refresh time).1.isOk
  | .devices _ => false

/-- The operation is a refresh at a proper time. -/
def Op.isTimed : Op σ → Bool
  | .refresh time => time.isFinite
  | _ => false

/-- After the end of a session nothing is left of it, unless another begins. -/
theorem over_of_ends {c : Console σ} {op : Op σ} (ended : c.ends op = true)
    (quiet : c.begins op = false) : (c.perform op).2.Over := by
  cases op with
  | load core program => exact over_of_load_failed quiet
  | loadFrom core source =>
    rw [begins, loadFrom] at quiet
    rw [perform, loadFrom]
    rw [ends] at ended
    cases read : source.readAll with
    | error failure =>
      rw [read] at ended
      cases ended
    | ok program =>
      rw [read] at quiet
      exact over_of_load_failed quiet
  | refresh time =>
    cases answer : (c.refresh time).1 with
    | ok outcome =>
      rw [ends, answer] at ended
      cases ended
    | error failure => exact over_of_refresh_error answer
  | stop => exact c.over_stop
  | devices op => cases ended

theorem untimed_of_begins {c : Console σ} {op : Op σ} (begun : c.begins op = true) :
    (c.perform op).2.isRunning = true ∧ (c.perform op).2.pacer.isIdle = true := by
  cases op with
  | load core program => exact untimed_of_load begun
  | loadFrom core source =>
    rw [begins, loadFrom] at begun
    rw [perform, loadFrom]
    cases read : source.readAll with
    | error failure =>
      rw [read] at begun
      cases begun
    | ok program =>
      rw [read] at begun
      exact untimed_of_load begun
  | refresh time => cases begun
  | stop => cases begun
  | devices op => cases begun

/-- An operation that does not end a session leaves it to a descendant of its
core.  If there is none, only the devices may change. -/
theorem perform_of_not_ends {c : Console σ} {op : Op σ} (goesOn : c.ends op = false) :
    (c.isRunning = false → (c.perform op).2.session = c.session ∧ (c.perform op).2.pacer = c.pacer)
      ∧ ∀ core, c.session = .running core →
        ∃ later, (c.perform op).2.session = .running later ∧ core.Descends later := by
  cases op with
  | load core program => cases goesOn
  | stop => cases goesOn
  | loadFrom core source =>
    cases read : source.readAll with
    | ok program =>
      rw [ends, read] at goesOn
      cases goesOn
    | error failure =>
      rw [perform, loadFrom, read]
      exact ⟨fun _ => ⟨rfl, rfl⟩, fun core running => ⟨core, running, .refl⟩⟩
  | devices op => exact ⟨fun _ => ⟨rfl, rfl⟩, fun core running => ⟨core, running, .refl⟩⟩
  | refresh time =>
    constructor
    · intro off
      rw [perform, (refresh_of_not_running off time).1]
      exact ⟨rfl, rfl⟩
    · intro core running
      cases ended : ((c.machine core).walk (c.pacer.schedule time)).outcome with
      | ok early =>
        exact ⟨_, session_refresh_of_walk_ok running ended, ((c.machine core).descends_walk _).2⟩
      | error failure =>
        obtain ⟨rest, said, entries, _, step⟩ := refresh_of_walk_error running ended
        rw [ends, step] at goesOn
        cases goesOn

theorem isRunning_perform_of_not_ends {c : Console σ} {op : Op σ} (goesOn : c.ends op = false) :
    (c.perform op).2.isRunning = c.isRunning := by
  obtain ⟨off, on⟩ := perform_of_not_ends goesOn
  cases running : c.isRunning with
  | false => rw [isRunning, (off running).1, ← isRunning, running]
  | true =>
    obtain ⟨core, session⟩ := isRunning_iff.1 running
    obtain ⟨later, left, _⟩ := on core session
    exact isRunning_iff.2 ⟨later, left⟩

/-! ## Without a session -/

theorem idle_perform {c : Console σ} (idle : c.isRunning = false → c.pacer.isIdle = true)
    (op : Op σ) : (c.perform op).2.isRunning = false → (c.perform op).2.pacer.isIdle = true := by
  intro off
  cases begun : c.begins op with
  | true => exact (untimed_of_begins begun).2
  | false =>
    cases ended : c.ends op with
    | true => exact (over_of_ends ended begun).idle
    | false =>
      rw [isRunning_perform_of_not_ends ended] at off
      rw [((perform_of_not_ends ended).1 off).2]
      exact idle off

theorem idle_after (config : Config) (devices : Devices) (history : List (Op σ)) :
    ((ofDevices config devices).after history).isRunning = false →
      ((ofDevices config devices).after history).pacer.isIdle = true :=
  after_induction (P := fun c => c.isRunning = false → c.pacer.isIdle = true)
    (fun _ op idle => idle_perform idle op) (fun _ => rfl) history

/-- A refresh finds out whether there is a session. -/
theorem refresh_stopped_iff (c : Console σ) (time : Binary64) :
    (c.refresh time).1 = .ok .stopped ↔ c.isRunning = false := by
  constructor
  · intro stopped
    rw [Bool.eq_false_iff]
    intro on
    obtain ⟨core, running⟩ := isRunning_iff.1 on
    simp only [refresh, running] at stopped
    rcases done : c.pacer.refresh time ⟨core, c.devices⟩ with ⟨answer, pacer, m⟩
    rw [done] at stopped
    cases answer with
    | error failure => cases stopped
    | ok outcome =>
      cases stopped
      -- the pacer has no such answer
      cases Pacer.refreshed_of_refresh done
  · intro off
    rw [(refresh_of_not_running off time).1]

theorem not_running_perform {c : Console σ} {op : Op σ} (off : c.isRunning = false)
    (quiet : c.begins op = false) : (c.perform op).2.isRunning = false := by
  cases ended : c.ends op with
  | true => exact (over_of_ends ended quiet).stopped
  | false => rw [isRunning_perform_of_not_ends ended, off]

theorem visits_of_not_running {c : Console σ} (off : c.isRunning = false) (op : Op σ) :
    c.visits op = [] := by
  cases op with
  | refresh time => exact (refresh_of_not_running off time).2
  | _ => rfl

theorem visitsOf_of_not_running {c : Console σ} {ops : List (Op σ)} (off : c.isRunning = false)
    (quiet : c.Throughout (fun d op => d.begins op = false) ops) : c.visitsOf ops = [] := by
  induction ops generalizing c with
  | nil => rfl
  | cons op rest ih =>
    rw [visitsOf, visits_of_not_running off, ih (not_running_perform off quiet.1) quiet.2,
      List.append_nil]

/-! ## Within a session -/

/-- A session that goes on stays without a recorded time until a refresh comes at
a proper one. -/
theorem untimed_perform {c : Console σ} {op : Op σ}
    (untimed : c.isRunning = true ∧ c.pacer.isIdle = true)
    (quiet : c.ends op = false ∧ op.isTimed = false) :
    (c.perform op).2.isRunning = true ∧ (c.perform op).2.pacer.isIdle = true := by
  refine ⟨(isRunning_perform_of_not_ends quiet.1).trans untimed.1, ?_⟩
  cases op with
  | load core program => cases quiet.1
  | stop => cases quiet.1
  | loadFrom core source =>
    cases read : source.readAll with
    | ok program =>
      rw [ends, read] at quiet
      cases quiet.1
    | error failure =>
      rw [perform, loadFrom, read]
      exact untimed.2
  | devices op => exact untimed.2
  | refresh time =>
    obtain ⟨core, running⟩ := isRunning_iff.1 untimed.1
    have improper : time.isFinite = false := quiet.2
    have early : c.pacer.due? time = none := by
      rw [Pacer.due?, improper]
      rfl
    simp only [perform, refresh, running, Pacer.refresh_of_not_due early, Pacer.pass, improper]
    exact untimed.2

theorem refresh_of_untimed {c : Console σ} (untimed : c.isRunning = true ∧ c.pacer.isIdle = true)
    {time : Binary64} (proper : time.isFinite = true) : (c.refresh time).1 = .ok .started := by
  obtain ⟨core, running⟩ := isRunning_iff.1 untimed.1
  have unrecorded : c.pacer.lastTime = none := Option.isNone_iff_eq_none.1 untimed.2
  simp only [refresh, running, Pacer.refresh, proper, unrecorded, if_true]

/-- The core goes back to the one that the last load brought, and the session has
not ended since. -/
def GoesBack (start : Console σ) (history : List (Op σ)) (core : Core σ) : Prop :=
  ∃ earlier load since first, history = earlier ++ load :: since
    ∧ (start.after earlier).begins load = true
    ∧ ((start.after earlier).perform load).2.session = .running first
    ∧ ((start.after earlier).perform load).2.Throughout (fun d op => d.ends op = false) since
    ∧ first.Descends core

theorem goesBack_of_running {start : Console σ} (off : start.isRunning = false)
    {history : List (Op σ)} {core : Core σ} (running : (start.after history).session = .running core) :
    start.GoesBack history core := by
  induction history using List.reverseRecOn generalizing core with
  | nil =>
    have on : start.session = .running core := running
    rw [isRunning, on] at off
    cases off
  | append_singleton history op ih =>
    rw [after_append] at running
    have left : ((start.after history).perform op).2.session = .running core := running
    -- the last operation began the session, ended one, or let it go on
    cases begun : (start.after history).begins op with
    | true => exact ⟨history, op, [], core, rfl, begun, left, trivial, .refl⟩
    | false =>
      cases ended : (start.after history).ends op with
      | true =>
        have stopped := (over_of_ends ended begun).stopped
        rw [isRunning, left] at stopped
        cases stopped
      | false =>
        have on : (start.after history).isRunning = true := by
          rw [← isRunning_perform_of_not_ends ended]
          exact isRunning_iff.2 ⟨core, left⟩
        obtain ⟨before, was⟩ := isRunning_iff.1 on
        obtain ⟨later, same, onward⟩ := (perform_of_not_ends ended).2 before was
        rw [left] at same
        cases same
        obtain ⟨earlier, load, since, first, rfl, loads, brought, kept, descends⟩ := ih was
        refine ⟨earlier, load, since ++ [op], first, by simp, loads, brought, ?_,
          descends.trans onward⟩
        rw [after_append] at ended
        exact throughout_append.2 ⟨kept, ended, trivial⟩

/-- The machines as a refresh finds them when it enters the core. -/
def entered (c : Console σ) (time : Binary64) : List (Machine σ) :=
  match c.session with
  | .running core => (c.machine core).entered (c.pacer.schedule time)
  | _ => []

theorem visits_refresh_eq_zipWith (c : Console σ) (time : Binary64) :
    c.visits (.refresh time)
      = List.zipWith Machine.visit (c.entered time) (c.pacer.schedule time) := by
  cases running : c.session with
  | none => simp only [visits, entered, running, List.zipWith_nil_left]
  | finished core => simp only [visits, entered, running, List.zipWith_nil_left]
  | running core =>
    rw [visits_of_running running, Machine.visits_eq_zipWith]
    simp only [entered, running]

theorem goesBack_of_entered {start : Console σ} (off : start.isRunning = false)
    {history : List (Op σ)} {time : Binary64} {m : Machine σ}
    (enters : m ∈ (start.after history).entered time) : start.GoesBack history m.core := by
  rw [entered] at enters
  cases running : (start.after history).session with
  | none =>
    rw [running] at enters
    cases enters
  | finished core =>
    rw [running] at enters
    cases enters
  | running core =>
    rw [running] at enters
    obtain ⟨earlier, load, since, first, split, loads, brought, kept, descends⟩ :=
      goesBack_of_running off running
    exact ⟨earlier, load, since, first, split, loads, brought, kept,
      descends.trans ((Machine.descends_walk _ _).1 m enters)⟩

/-! ## The main statement -/

/-- **The life of a session.**  Take a console after any history.  Without a
session nothing is timed.  A refresh answers that there is none exactly if that
is so, and then it enters no core and changes nothing.  Whatever ends a session,
failing or not, leaves nothing of it behind unless it begins another.  From there
on no core is entered and every refresh answers that there is no session, until a
load succeeds.  A core that is entered goes back to the last load, and its
session has not ended since.  And the first refresh of a session at a proper time
starts its timing, whatever times came before. -/
theorem session_lifecycle {config : Config} {devices : Devices} {history : List (Op σ)}
    {c : Console σ} (reached : (ofDevices config devices).after history = c) :
    (c.isRunning = false → c.pacer.isIdle = true)
      ∧ (∀ time, (c.refresh time).1 = .ok .stopped ↔ c.isRunning = false)
      ∧ (c.isRunning = false → ∀ time,
          (c.refresh time).2 = c ∧ c.visits (.refresh time) = [])
      ∧ (∀ op, c.ends op = true → c.begins op = false →
          (c.perform op).2.Over
          ∧ ∀ later, (c.perform op).2.Throughout (fun d op => d.begins op = false) later →
            (c.perform op).2.visitsOf later = []
            ∧ ∀ time, (((c.perform op).2.after later).refresh time).1 = .ok .stopped)
      ∧ (∀ time, c.visits (.refresh time)
            = List.zipWith Machine.visit (c.entered time) (c.pacer.schedule time)
          ∧ ∀ m ∈ c.entered time, (ofDevices config devices).GoesBack history m.core)
      ∧ (∀ op, c.begins op = true → ∀ later,
          (c.perform op).2.Throughout (fun d op => d.ends op = false ∧ op.isTimed = false) later →
          ∀ time, time.isFinite = true →
            (((c.perform op).2.after later).refresh time).1 = .ok .started) := by
  subst reached
  refine ⟨idle_after config devices history, refresh_stopped_iff _, ?_, ?_, ?_, ?_⟩
  · intro off time
    obtain ⟨nothing, quiet⟩ := refresh_of_not_running off time
    exact ⟨by rw [nothing], quiet⟩
  · intro op ended quiet
    have gone := over_of_ends ended quiet
    refine ⟨gone, ?_⟩
    intro later without
    refine ⟨visitsOf_of_not_running gone.stopped without, ?_⟩
    intro time
    rw [refresh_stopped_iff]
    exact after_of_throughout (I := fun d => d.isRunning = false)
      (fun _ _ => not_running_perform) gone.stopped without
  · intro time
    refine ⟨visits_refresh_eq_zipWith _ time, ?_⟩
    intro m enters
    exact goesBack_of_entered rfl enters
  · intro op begun later without time proper
    exact refresh_of_untimed
      (after_of_throughout (fun _ _ => untimed_perform) (untimed_of_begins begun) without) proper

end Console

/-! ## A session that ends with a refusal -/

namespace Scripted

/-- A speaker that refuses the first request to stop. -/
def stuck : Devices := { untouched with beeper := { speaker := { stopAnswers := [some "stuck"] } } }

/-- A session whose tone goes on at its second refresh. -/
def humming : List (Console.Op Scripted) := [
  .load (core [.call .enableSound fun _ => .done (.ok false)]) [],
  .refresh (Binary64.ofInt 0),
  .refresh (Binary64.ofInt 16)]

end Scripted

namespace Console

/-- A session is over although its tone could not be stopped, and the next is
timed from an earlier refresh than the last. -/
theorem session_lifecycle_refused :
    (((ofDevices {} Scripted.stuck).after Scripted.humming).perform .stop).1
        = .error (.audio "stuck")
      ∧ (((ofDevices {} Scripted.stuck).after Scripted.humming).perform .stop).2.Over
      ∧ ((((ofDevices {} Scripted.stuck).after (Scripted.humming ++ [.stop])).perform
          (.load (Scripted.core []) [])).2.refresh (Binary64.ofInt 8)).1 = .ok .started := by
  obtain ⟨_, _, _, ended, _⟩ := @session_lifecycle _ _ {} Scripted.stuck
    Scripted.humming _ rfl
  obtain ⟨_, _, _, _, _, begun⟩ := @session_lifecycle _ _ {} Scripted.stuck
    (Scripted.humming ++ [.stop]) _ rfl
  refine ⟨failureOf_eq_some.1 (by decide +kernel), (ended .stop rfl rfl).1, ?_⟩
  exact begun (.load (Scripted.core []) []) (by decide +kernel) [] trivial _ (by decide +kernel)

end Console

end Chip8Console
