import Chip8Console.Proofs.ExactTimes
import Chip8Console.Proofs.Isolation
import Chip8Console.Proofs.Lifecycle
import Chip8Console.Proofs.Scripted
import Mathlib.Algebra.GroupWithZero.Nat
import Mathlib.Algebra.Ring.Int.Defs

/-!
# Pacing over a session

A session is called at a list of times, in any order.  The first proper one starts
its timing.  After that a frame is processed at a time exactly if the interval has
passed since the frame before, or since the start.  Nothing else moves the time
from which the next frame is measured.  So the gaps between frames add up to the
time from the start to the last frame.  A frame for each gap, with a cycle for each
millisecond of it, means that no millisecond is lost or counted twice.

Times and gaps are in units of a `Binary64` here, and exact.

* `Console.frameTimes`: when a list of refreshes processes frames.
* `Console.TimedFrom`: the time from which the next frame is measured.
* `gaps`: the times between frames.
* `Console.callsOf_cycle_eq_sum`: the cycles of a run, as its frames report them.
* `Console.TimedFrom.callsOf_cycle`: the cycles of a run, gap by gap.
* `Console.frames_keep_time`: the main statement.
-/

namespace Chip8Console

universe u

variable {σ : Type u}

/-- The units of a number that is finite. -/
def Binary64.units : Binary64 → Int
  | .finite units => units
  | _ => 0

/-! ## Gaps -/

/-- The times between a start, the first frame, and each frame and the next. -/
def gaps : (start : Int) → (frames : List Int) → List Int
  | _, [] => []
  | start, frame :: rest => (frame - start) :: gaps frame rest

theorem length_gaps (start : Int) (frames : List Int) :
    (gaps start frames).length = frames.length := by
  induction frames generalizing start with
  | nil => rfl
  | cons frame rest ih => simp [gaps, ih]

/-- Gaps add up. -/
theorem sum_gaps (start : Int) (frames : List Int) :
    (gaps start frames).sum = frames.getLastD start - start := by
  induction frames generalizing start with
  | nil => simp [gaps]
  | cons frame rest ih =>
    rw [gaps, List.sum_cons, ih, List.getLastD_cons]
    omega

theorem isChain_iff_gaps {interval start : Int} {frames : List Int} :
    (start :: frames).IsChain (fun s t => interval ≤ t - s)
      ↔ ∀ gap ∈ gaps start frames, interval ≤ gap := by
  induction frames generalizing start with
  | nil => simp [gaps]
  | cons frame rest ih => rw [List.isChain_cons_cons, ih, gaps, List.forall_mem_cons]

/-- Frames at a distance from one another are in order. -/
theorem pairwise_of_isChain {interval start : Int} {frames : List Int} (positive : 0 < interval)
    (apart : (start :: frames).IsChain (fun s t => interval ≤ t - s)) :
    (start :: frames).Pairwise (· < ·) := by
  refine List.isChain_iff_pairwise.1 (apart.imp ?_)
  intro s t far
  omega

/-- They take at least as many intervals as they are. -/
theorem mul_le_sum {interval : Int} {times : List Int} (apart : ∀ gap ∈ times, interval ≤ gap) :
    times.length * interval ≤ times.sum := by
  induction times with
  | nil => simp
  | cons gap rest ih =>
    obtain ⟨first, others⟩ := List.forall_mem_cons.1 apart
    have := ih others
    rw [List.length_cons, List.sum_cons, Int.natCast_add, Int.add_mul]
    omega

/-- Counted up one by one, gaps come to no less than their sum, and to less than
one more each.  Whole gaps come to their sum. -/
theorem sum_ceil_bounds {unit : Int} (one : 0 < unit) (times : List Int) :
    times.sum ≤ (times.map fun gap => -(-gap / unit)).sum * unit
      ∧ (times.map fun gap => -(-gap / unit)).sum * unit + times.length
        ≤ times.sum + times.length * unit
      ∧ ((∀ gap ∈ times, unit ∣ gap) →
        (times.map fun gap => -(-gap / unit)).sum * unit = times.sum) := by
  induction times with
  | nil => simp
  | cons gap rest ih =>
    obtain ⟨low, high, whole⟩ := ih
    obtain ⟨above, below, same⟩ := Binary64.ceil_bounds gap one
    rw [List.map_cons, List.sum_cons, List.sum_cons, List.length_cons, Int.natCast_add,
      Int.add_mul, Int.add_mul]
    refine ⟨by omega, by omega, ?_⟩
    intro multiples
    obtain ⟨first, others⟩ := List.forall_mem_cons.1 multiples
    rw [same first, whole others]

/-- A gap lies between two of the times. -/
theorem exists_of_mem_gaps {start : Int} {frames : List Int} {gap : Int}
    (between : gap ∈ gaps start frames) :
    ∃ s t, s ∈ start :: frames ∧ t ∈ frames ∧ gap = t - s := by
  induction frames generalizing start with
  | nil => cases between
  | cons frame rest ih =>
    rcases List.mem_cons.1 between with rfl | later
    · exact ⟨start, frame, List.mem_cons_self, List.mem_cons_self, rfl⟩
    · obtain ⟨s, t, source, target, same⟩ := ih later
      exact ⟨s, t, List.mem_cons_of_mem _ source, List.mem_cons_of_mem _ target, same⟩

namespace Console

variable [Interpreter σ]

/-! ## Refreshes in a row -/

/-- Refreshes at the given times. -/
def refreshes (times : List Binary64) : List (Op σ) := times.map .refresh

/-- A refresh processes a frame, whether the frame fails or not. -/
def processes (c : Console σ) (time : Binary64) : Bool :=
  match (c.refresh time).1 with
  | .ok (.frame _ _) | .error _ => true
  | .ok _ => false

/-- When refreshes in a row process frames. -/
def frameTimes (c : Console σ) : List Binary64 → List Int
  | [] => []
  | time :: rest =>
      (if c.processes time then [time.units] else []) ++ (c.refresh time).2.frameTimes rest

/-- How often an entry point is called in a run. -/
def callsOf (c : Console σ) (entry : Entry) (ops : List (Op σ)) : Nat :=
  ((c.visitsOf ops).map Visit.entry).count entry

theorem frameTimes_append (c : Console σ) (earlier later : List Binary64) :
    c.frameTimes (earlier ++ later)
      = c.frameTimes earlier ++ (c.after (refreshes earlier)).frameTimes later := by
  induction earlier generalizing c with
  | nil => rfl
  | cons time rest ih =>
    rw [List.cons_append, frameTimes, frameTimes, ih, List.append_assoc]
    rfl

theorem callsOf_append (c : Console σ) (entry : Entry) (earlier later : List (Op σ)) :
    c.callsOf entry (earlier ++ later)
      = c.callsOf entry earlier + (c.after earlier).callsOf entry later := by
  rw [callsOf, visitsOf_append, List.map_append, List.count_append]
  rfl

theorem callsOf_cons (c : Console σ) (entry : Entry) (time : Binary64) (rest : List Binary64) :
    c.callsOf entry (refreshes (time :: rest))
      = ((c.visits (.refresh time)).map Visit.entry).count entry
        + (c.refresh time).2.callsOf entry (refreshes rest) := by
  show (((c.visits (.refresh time)) ++ (c.refresh time).2.visitsOf (refreshes rest)).map
    Visit.entry).count entry = _
  rw [List.map_append, List.count_append]
  rfl

theorem processes_of_not_running {c : Console σ} (off : c.isRunning = false) (time : Binary64) :
    c.processes time = false := by
  rw [processes, (refresh_of_not_running off time).1]

theorem processes_true {c : Console σ} {time : Binary64} (processed : c.processes time = true) :
    c.isRunning = true := by
  rw [← Bool.not_eq_false]
  intro off
  rw [processes_of_not_running off] at processed
  cases processed

/-- A session processes a frame exactly if one is due. -/
theorem processes_eq_due {c : Console σ} (on : c.isRunning = true) (time : Binary64) :
    c.processes time = (c.pacer.due? time).isSome := by
  obtain ⟨core, running⟩ := isRunning_iff.1 on
  rw [processes, answer_refresh running]
  cases due : c.pacer.due? time with
  | none =>
    rw [Pacer.refresh_of_not_due due, Pacer.pass]
    cases time.isFinite && c.pacer.isIdle with
    | true => rfl
    | false => rfl
  | some elapsed =>
    rw [Pacer.refresh_of_due due, Machine.frame_eq_walk]
    cases ((c.machine core).walk (frameSchedule (c.pacer.budget.cycles elapsed))).outcome with
    | ok early => rfl
    | error failure => rfl

theorem visits_of_not_processes {c : Console σ} {time : Binary64}
    (early : c.processes time = false) : c.visits (.refresh time) = [] := by
  cases on : c.isRunning with
  | false => exact (refresh_of_not_running on time).2
  | true =>
    obtain ⟨core, running⟩ := isRunning_iff.1 on
    rw [processes_eq_due on, Option.isSome_eq_false_iff, Option.isNone_iff_eq_none] at early
    rw [visits_of_running running]
    exact Pacer.visits_of_not_due early _

/-- Each frame calls the timers once, and nothing else does. -/
theorem count_tick_visits (c : Console σ) (time : Binary64) :
    ((c.visits (.refresh time)).map Visit.entry).count .tick
      = if c.processes time then 1 else 0 := by
  cases processed : c.processes time with
  | false =>
    rw [visits_of_not_processes processed]
    rfl
  | true =>
    have on := processes_true processed
    obtain ⟨core, running⟩ := isRunning_iff.1 on
    rw [processes_eq_due on] at processed
    obtain ⟨elapsed, due⟩ := Option.isSome_iff_exists.1 processed
    rw [visits_of_running running, Pacer.schedule_of_due due, frameSchedule]
    have within := Machine.entries_walk_prefix (c.machine core)
      (.tick :: List.replicate (c.pacer.budget.cycles elapsed) .cycle)
    obtain ⟨later, visits⟩ := (c.machine core).visits_walk_cons .tick
      (List.replicate (c.pacer.budget.cycles elapsed) .cycle)
    rw [visits, List.map_cons] at within ⊢
    obtain ⟨_, cycles⟩ := List.prefix_replicate_iff.1 ((List.prefix_cons_inj _).1 within)
    rw [cycles, List.count_cons, List.count_replicate]
    rfl

theorem callsOf_tick (c : Console σ) (times : List Binary64) :
    c.callsOf .tick (refreshes times) = (c.frameTimes times).length := by
  induction times generalizing c with
  | nil => rfl
  | cons time rest ih =>
    rw [callsOf_cons, count_tick_visits, frameTimes, List.length_append]
    cases c.processes time with
    | true => exact congrArg (1 + ·) (ih _)
    | false => exact congrArg (0 + ·) (ih _)

/-! ## The time from which the next frame is measured -/

/-- In a session the recorded time is the given one. -/
def TimedFrom (c : Console σ) (start : Int) : Prop :=
  c.isRunning = true → c.pacer.lastTime = some (.finite start)

/-- A refresh moves it to the frame that it processes, and otherwise leaves it. -/
theorem TimedFrom.refresh {c : Console σ} {start : Int} (timed : c.TimedFrom start)
    (time : Binary64) :
    (c.refresh time).2.TimedFrom (if c.processes time then time.units else start) := by
  intro still
  cases on : c.isRunning with
  | false =>
    rw [(refresh_of_not_running on time).1, on] at still
    cases still
  | true =>
    obtain ⟨core, running⟩ := isRunning_iff.1 on
    have recorded := timed on
    cases answer : (c.refresh time).1 with
    | error failure =>
      rw [(over_of_refresh_error answer).stopped] at still
      cases still
    | ok outcome =>
      obtain ⟨pacer, last, refreshed, left⟩ := refreshed_of_ok running answer
      rw [left, processes, answer]
      cases refreshed with
      | started finite idle =>
        rw [recorded] at idle
        cases idle
      | waiting => exact recorded
      | frame finite =>
        obtain ⟨units, rfl⟩ := Binary64.isFinite_iff.1 finite
        rfl

/-- A frame is processed exactly if the interval has passed. -/
theorem TimedFrom.processes_iff {c : Console σ} {start interval : Int} {times : List Binary64}
    (timed : c.TimedFrom start) (on : c.isRunning = true)
    (every : c.pacer.interval = .finite interval) (exact : Binary64.Exact times)
    (source : .finite start ∈ times) {time : Binary64} (target : time ∈ times) :
    c.processes time = true ↔ ∃ t, time = .finite t ∧ interval ≤ t - start := by
  rw [processes_eq_due on, Option.isSome_iff_exists]
  constructor
  · rintro ⟨elapsed, due⟩
    obtain ⟨finite, last, recorded, _, late⟩ := Pacer.due?_eq_some.1 due
    obtain ⟨t, rfl⟩ := Binary64.isFinite_iff.1 finite
    rw [timed on] at recorded
    cases recorded
    rw [(exact start t source target).1, every, Binary64.lt, decide_eq_false_iff_not] at late
    exact ⟨t, rfl, Int.not_lt.1 late⟩
  · rintro ⟨t, rfl, late⟩
    refine ⟨_, Pacer.due?_eq_some.2 ⟨rfl, .finite start, timed on, rfl, ?_⟩⟩
    rw [(exact start t source target).1, every, Binary64.lt, decide_eq_false_iff_not]
    exact Int.not_lt.2 late

theorem TimedFrom.after {c : Console σ} {start : Int} (timed : c.TimedFrom start)
    (times : List Binary64) :
    (c.after (refreshes times)).TimedFrom ((c.frameTimes times).getLastD start) := by
  induction times generalizing c start with
  | nil => exact timed
  | cons time rest ih =>
    have onward := ih (timed.refresh time)
    rw [frameTimes]
    cases processed : c.processes time with
    | true =>
      rw [processed] at onward
      rw [if_pos rfl, List.singleton_append, List.getLastD_cons]
      exact onward
    | false =>
      rw [processed] at onward
      exact onward

theorem interval_after (c : Console σ) (ops : List (Op σ)) :
    (c.after ops).pacer.interval = c.pacer.interval := by
  have kept := congrArg Pacer.interval (c.after_keeps ops).1
  exact kept

theorem budget_after (c : Console σ) (ops : List (Op σ)) :
    (c.after ops).pacer.budget = c.pacer.budget := by
  have kept := congrArg Pacer.budget (c.after_keeps ops).1
  exact kept

/-- From frame to frame the interval passes. -/
theorem TimedFrom.isChain_frameTimes {c : Console σ} {start interval : Int}
    {times : List Binary64} (timed : c.TimedFrom start)
    (every : c.pacer.interval = .finite interval)
    (exact : Binary64.Exact (.finite start :: times)) :
    (start :: c.frameTimes times).IsChain (fun s t => interval ≤ t - s) := by
  induction times generalizing c start with
  | nil => exact .singleton start
  | cons time rest ih =>
    have onward := timed.refresh time
    have still := (c.interval_after [.refresh time]).trans every
    rw [frameTimes]
    cases processed : c.processes time with
    | false =>
      rw [processed] at onward
      exact ih onward still (exact.subset (List.cons_subset_cons _ (List.subset_cons_self _ _)))
    | true =>
      obtain ⟨t, rfl, late⟩ := (timed.processes_iff (processes_true processed) every exact
        List.mem_cons_self (List.mem_cons_of_mem _ List.mem_cons_self)).1 processed
      rw [processed] at onward
      have later := ih onward still (exact.subset (List.subset_cons_self _ _))
      exact List.isChain_cons_cons.2 ⟨late, later⟩

/-- Frames are processed at times at which the console was called. -/
theorem finite_of_mem_frameTimes {c : Console σ} {times : List Binary64} {t : Int}
    (processed : t ∈ c.frameTimes times) : .finite t ∈ times := by
  induction times generalizing c with
  | nil => cases processed
  | cons time rest ih =>
    rw [frameTimes] at processed
    rcases List.mem_append.1 processed with now | later
    · split at now
      · next frame =>
        rw [processes_eq_due (processes_true frame)] at frame
        obtain ⟨elapsed, due⟩ := Option.isSome_iff_exists.1 frame
        obtain ⟨units, rfl⟩ := Binary64.isFinite_iff.1 (Pacer.due?_eq_some.1 due).1
        rw [List.mem_singleton.1 now]
        exact List.mem_cons_self
      · cases now
    · exact List.mem_cons_of_mem _ (ih later)

theorem finite_of_mem_cons_frameTimes {c : Console σ} {start : Int} {times : List Binary64}
    {t : Int} (listed : t ∈ start :: c.frameTimes times) : .finite t ∈ .finite start :: times := by
  rcases List.mem_cons.1 listed with rfl | processed
  · exact List.mem_cons_self
  · exact List.mem_cons_of_mem _ (finite_of_mem_frameTimes processed)

/-! ## Cycles that frames report -/

/-- The cycles that a refresh reports, if it processed a frame. -/
def reported? (c : Console σ) (time : Binary64) : Option Nat :=
  match (c.refresh time).1 with
  | .ok (.frame count _) => some count
  | _ => none

/-- The cycles that refreshes in a row report, frame by frame. -/
def reportedCycles (c : Console σ) : List Binary64 → List Nat
  | [] => []
  | time :: rest => (c.reported? time).toList ++ (c.refresh time).2.reportedCycles rest

/-- A refresh that does not fail runs the cycles that it reports, and no others. -/
theorem count_cycle_visits_of_goesOn {c : Console σ} {time : Binary64}
    (goesOn : c.ends (.refresh time) = false) :
    ((c.visits (.refresh time)).map Visit.entry).count .cycle
      = (c.reported? time).toList.sum := by
  cases on : c.isRunning with
  | false =>
    obtain ⟨same, unvisited⟩ := refresh_of_not_running on time
    rw [unvisited, reported?, same]
    rfl
  | true =>
    obtain ⟨core, running⟩ := isRunning_iff.1 on
    cases answer : (c.refresh time).1 with
    | error failure =>
      rw [ends, answer] at goesOn
      cases goesOn
    | ok outcome =>
      obtain ⟨_, _, refreshed, _⟩ := refreshed_of_ok running answer
      rw [visits_of_running running, reported?, answer]
      cases refreshed with
      | started _ _ unvisited =>
        rw [Pacer.visits] at unvisited
        rw [unvisited]
        rfl
      | waiting _ unvisited =>
        rw [Pacer.visits] at unvisited
        rw [unvisited]
        rfl
      | frame _ _ _ visits _ =>
        have entries := visits.entries
        rw [Pacer.visits] at entries
        rw [entries, List.count_cons, List.count_replicate]
        rfl

/-- Such a refresh reports exactly if it processes a frame. -/
theorem length_reported?_of_goesOn {c : Console σ} {time : Binary64}
    (goesOn : c.ends (.refresh time) = false) :
    (c.reported? time).toList.length = if c.processes time then 1 else 0 := by
  rw [ends] at goesOn
  rw [reported?, processes]
  cases answer : (c.refresh time).1 with
  | error failure =>
    rw [answer] at goesOn
    cases goesOn
  | ok outcome =>
    cases outcome with
    | frame count early => rfl
    | _ => rfl

/-- In a run without a failure, each frame reports its cycles, and no others run. -/
theorem callsOf_cycle_eq_sum {c : Console σ} {times : List Binary64}
    (unfailing : c.Throughout (fun d op => d.ends op = false) (refreshes times)) :
    c.callsOf .cycle (refreshes times) = (c.reportedCycles times).sum
      ∧ (c.reportedCycles times).length = (c.frameTimes times).length := by
  induction times generalizing c with
  | nil => exact ⟨rfl, rfl⟩
  | cons time rest ih =>
    obtain ⟨goesOn, onward⟩ := unfailing
    obtain ⟨total, each⟩ := ih (c := (c.refresh time).2) onward
    rw [callsOf_cons, reportedCycles, frameTimes, List.sum_append, List.length_append,
      List.length_append, total, each, count_cycle_visits_of_goesOn goesOn,
      length_reported?_of_goesOn goesOn]
    refine ⟨rfl, ?_⟩
    cases c.processes time with
    | true => rfl
    | false => rfl

/-! ## Cycles that the gaps are worth -/

/-- In a run no cycle asks to stop and no refresh fails. -/
structure Steady (c : Console σ) (ops : List (Op σ)) : Prop where
  quiet : ∀ v ∈ c.visitsOf ops, v.asksToStop = false
  unfailing : c.Throughout (fun d op => d.ends op = false) ops

theorem Steady.refresh {c : Console σ} {time : Binary64} {rest : List Binary64}
    (steady : c.Steady (refreshes (time :: rest))) :
    (c.refresh time).2.Steady (refreshes rest) where
  quiet := fun v visited => steady.quiet v (List.mem_append_right _ visited)
  unfailing := steady.unfailing.2

theorem Steady.after {c : Console σ} {earlier later : List Binary64}
    (steady : c.Steady (refreshes (earlier ++ later))) :
    (c.after (refreshes earlier)).Steady (refreshes later) := by
  induction earlier generalizing c with
  | nil => exact steady
  | cons time rest ih => exact ih steady.refresh

/-- Then a frame reports its whole budget. -/
theorem reported?_of_quiet {c : Console σ} {core : Core σ} {time elapsed : Binary64}
    (running : c.session = .running core) (due : c.pacer.due? time = some elapsed)
    (quiet : ∀ v ∈ c.visits (.refresh time), v.asksToStop = false)
    (goesOn : c.ends (.refresh time) = false) :
    c.reported? time = some (c.pacer.budget.cycles elapsed) := by
  have processed : c.processes time = true := by
    rw [processes_eq_due (isRunning_iff.2 ⟨core, running⟩), due]
    rfl
  rw [visits_of_running running] at quiet
  rw [ends] at goesOn
  rw [processes] at processed
  rw [reported?]
  cases answer : (c.refresh time).1 with
  | error failure =>
    rw [answer] at goesOn
    cases goesOn
  | ok outcome =>
    obtain ⟨_, _, refreshed, _⟩ := refreshed_of_ok running answer
    rw [answer] at processed
    cases refreshed with
    | started => cases processed
    | waiting => cases processed
    | @frame last count early _ recorded _ visits _ =>
      obtain ⟨_, _, same, rfl, _⟩ := Pacer.due?_eq_some.1 due
      rw [recorded] at same
      cases same
      -- a frame that ends below its budget was asked to
      have whole : ¬ count < c.pacer.budget.cycles (time.sub last) := by
        intro short
        obtain ⟨final, ended, asked⟩ := visits.early_iff.1 (visits.early_of_lt short)
        have silent := quiet final (List.mem_of_mem_tail (List.mem_of_getLast? ended))
        rw [Visit.asksToStop_of_result asked] at silent
        cases silent
      exact congrArg some (Nat.le_antisymm visits.count_le_budget (Nat.not_lt.1 whole))

theorem count_cycle_visits {c : Console σ} {core : Core σ} {time elapsed : Binary64}
    (running : c.session = .running core) (due : c.pacer.due? time = some elapsed)
    (quiet : ∀ v ∈ c.visits (.refresh time), v.asksToStop = false)
    (goesOn : c.ends (.refresh time) = false) :
    ((c.visits (.refresh time)).map Visit.entry).count .cycle = c.pacer.budget.cycles elapsed := by
  rw [count_cycle_visits_of_goesOn goesOn, reported?_of_quiet running due quiet goesOn]
  exact Nat.add_zero _

/-- The cycles of a run are those that the gaps between its frames are worth. -/
theorem TimedFrom.callsOf_cycle {c : Console σ} {start interval : Int} {times : List Binary64}
    (timed : c.TimedFrom start) (on : c.isRunning = true)
    (every : c.pacer.interval = .finite interval) (exact : Binary64.Exact (.finite start :: times))
    (steady : c.Steady (refreshes times)) :
    (c.callsOf .cycle (refreshes times) : Int)
      = ((gaps start (c.frameTimes times)).map
          fun gap => (c.pacer.budget.cycles (.finite gap) : Int)).sum := by
  induction times generalizing c start with
  | nil => rfl
  | cons time rest ih =>
    obtain ⟨core, running⟩ := isRunning_iff.1 on
    have goesOn : c.ends (.refresh time) = false := steady.unfailing.1
    have quiet : ∀ v ∈ c.visits (.refresh time), v.asksToStop = false := fun v visited =>
      steady.quiet v (List.mem_append_left _ visited)
    have onward : ∀ {next}, (c.refresh time).2.TimedFrom next →
        Binary64.Exact (.finite next :: rest) → _ := fun timed exact =>
      ih timed ((isRunning_perform_of_not_ends goesOn).trans on)
        ((c.interval_after [.refresh time]).trans every) exact steady.refresh
    have moved := timed.refresh time
    rw [callsOf_cons, Int.natCast_add, frameTimes]
    have same : (c.refresh time).2.pacer.budget = c.pacer.budget := c.budget_after [.refresh time]
    rw [same] at onward
    cases processed : c.processes time with
    | false =>
      rw [processed] at moved
      rw [visits_of_not_processes processed, onward moved
        (exact.subset (List.cons_subset_cons _ (List.subset_cons_self _ _)))]
      exact Int.zero_add _
    | true =>
      obtain ⟨t, rfl, _⟩ := (timed.processes_iff on every exact List.mem_cons_self
        (List.mem_cons_of_mem _ List.mem_cons_self)).1 processed
      rw [if_pos processed] at moved
      rw [processes_eq_due on] at processed
      obtain ⟨elapsed, due⟩ := Option.isSome_iff_exists.1 processed
      obtain ⟨_, last, recorded, same, _⟩ := Pacer.due?_eq_some.1 due
      rw [timed on] at recorded
      cases recorded
      have gap := (exact start t List.mem_cons_self
        (List.mem_cons_of_mem _ List.mem_cons_self)).1
      rw [count_cycle_visits running due quiet goesOn, same, gap, if_pos rfl,
        List.singleton_append, gaps, List.map_cons, List.sum_cons]
      rw [onward moved (exact.subset (List.subset_cons_self _ _))]
      rfl

/-- Gaps between exact times are counted up. -/
theorem sum_ceilCount {start interval : Int} {frames : List Int} {times : List Binary64}
    (positive : 0 < interval) (exact : Binary64.Exact times)
    (among : ∀ t ∈ start :: frames, .finite t ∈ times)
    (apart : ∀ gap ∈ gaps start frames, interval ≤ gap) :
    (gaps start frames).map (fun gap => ((Binary64.finite gap).ceilCount : Int))
      = (gaps start frames).map fun gap => -(-gap / (Binary64.unitsPerOne : Int)) := by
  refine List.map_congr_left ?_
  intro gap between
  have far := apart gap between
  obtain ⟨s, t, source, target, rfl⟩ := exists_of_mem_gaps between
  have source' := among s source
  have target' := among t (List.mem_cons_of_mem _ target)
  rw [← Binary64.ceilCount_of_exact exact source' target' (by omega),
    (exact s t source' target').1]

/-- With a cycle for each millisecond, no millisecond is lost or counted twice. -/
theorem TimedFrom.cycles_of_elapsed {c : Console σ} {start interval : Int}
    {times : List Binary64} (timed : c.TimedFrom start) (on : c.isRunning = true)
    (every : c.pacer.interval = .finite interval) (positive : 0 < interval)
    (exact : Binary64.Exact (.finite start :: times)) (steady : c.Steady (refreshes times))
    (elapsed : c.pacer.budget = .elapsed) :
    (c.frameTimes times).getLastD start - start
        ≤ c.callsOf .cycle (refreshes times) * Binary64.unitsPerOne
      ∧ (c.frameTimes times ≠ [] →
        (c.callsOf .cycle (refreshes times) * Binary64.unitsPerOne : Int)
          < (c.frameTimes times).getLastD start - start
            + (c.frameTimes times).length * Binary64.unitsPerOne)
      ∧ ((∀ t, .finite t ∈ .finite start :: times → (Binary64.unitsPerOne : Int) ∣ t) →
        (c.callsOf .cycle (refreshes times) * Binary64.unitsPerOne : Int)
          = (c.frameTimes times).getLastD start - start) := by
  have among : ∀ t ∈ start :: c.frameTimes times, .finite t ∈ .finite start :: times :=
    fun t listed => finite_of_mem_cons_frameTimes listed
  have apart := isChain_iff_gaps.1 (timed.isChain_frameTimes every exact)
  have count := timed.callsOf_cycle on every exact steady
  rw [elapsed] at count
  rw [count, ← length_gaps start, ← sum_gaps]
  simp only [Budget.cycles]
  rw [sum_ceilCount positive exact among apart]
  obtain ⟨low, high, whole⟩ :=
    sum_ceil_bounds (Int.natCast_pos.2 Binary64.unitsPerOne_pos) (gaps start (c.frameTimes times))
  refine ⟨low, ?_, ?_⟩
  · intro some_frame
    have := List.length_pos_iff.2 some_frame
    rw [← length_gaps start] at this
    generalize (Binary64.unitsPerOne : Int) = unit at *
    omega
  · intro multiples
    refine whole ?_
    intro gap between
    obtain ⟨s, t, source, target, rfl⟩ := exists_of_mem_gaps between
    exact Int.dvd_sub (multiples t (among t (List.mem_cons_of_mem _ target)))
      (multiples s (among s source))

/-- With a fixed budget, each frame uses it up. -/
theorem TimedFrom.cycles_of_fixed {c : Console σ} {start interval : Int}
    {times : List Binary64} (timed : c.TimedFrom start) (on : c.isRunning = true)
    (every : c.pacer.interval = .finite interval)
    (exact : Binary64.Exact (.finite start :: times)) (steady : c.Steady (refreshes times))
    {count : UInt32} (fixed : c.pacer.budget = .fixed count) :
    c.callsOf .cycle (refreshes times) = (c.frameTimes times).length * count.toNat := by
  have total := timed.callsOf_cycle on every exact steady
  rw [fixed] at total
  simp only [Budget.cycles, List.map_const', List.sum_replicate_int, length_gaps] at total
  rw [← Int.natCast_mul] at total
  exact Int.ofNat_inj.1 total

/-! ## The start -/

/-- An improper time does nothing to a session. -/
theorem refresh_of_improper {c : Console σ} {time : Binary64} (on : c.isRunning = true)
    (improper : time.isFinite = false) : c.refresh time = (.ok .waiting, c) := by
  obtain ⟨core, running⟩ := isRunning_iff.1 on
  simp only [refresh, running, Pacer.refresh, improper, Bool.false_eq_true, if_false]
  rw [← running]

/-- The console with a recorded time. -/
def timed (c : Console σ) (start : Int) : Console σ :=
  { c with pacer := { c.pacer with lastTime := some (.finite start) } }

/-- The first proper time of a session is recorded. -/
theorem refresh_of_first {c : Console σ} (on : c.isRunning = true) (idle : c.pacer.isIdle = true)
    (start : Int) : c.refresh (.finite start) = (.ok .started, c.timed start) := by
  obtain ⟨core, running⟩ := isRunning_iff.1 on
  have unrecorded : c.pacer.lastTime = none := Option.isNone_iff_eq_none.1 idle
  simp only [refresh, running, Pacer.refresh, Binary64.isFinite, unrecorded, if_true]
  rw [timed, ← running]

/-- A session is timed from its first proper time, whatever improper times come
before. -/
theorem start_timing {c : Console σ} (on : c.isRunning = true) (idle : c.pacer.isIdle = true)
    {early : List Binary64} (improper : ∀ t ∈ early, t.isFinite = false) (start : Int) :
    c.after (refreshes (early ++ [.finite start])) = c.timed start
      ∧ c.frameTimes (early ++ [.finite start]) = []
      ∧ c.visitsOf (refreshes (early ++ [.finite start])) = [] := by
  induction early with
  | nil =>
    have first := refresh_of_first on idle start
    have quiet : c.processes (.finite start) = false := by rw [processes, first]
    refine ⟨congrArg Prod.snd first, ?_, ?_⟩
    · show (if c.processes (.finite start) then _ else _) ++ [] = []
      rw [quiet]
      rfl
    · show c.visits (.refresh (.finite start)) ++ [] = []
      rw [visits_of_not_processes quiet]
      rfl
  | cons time rest ih =>
    obtain ⟨now, later⟩ := List.forall_mem_cons.1 improper
    obtain ⟨left, frames, visits⟩ := ih later
    have same := refresh_of_improper on now
    have quiet : c.processes time = false := by rw [processes, same]
    refine ⟨?_, ?_, ?_⟩
    · show (c.refresh time).2.after (refreshes (rest ++ [.finite start])) = _
      rw [same, left]
    · rw [List.cons_append, frameTimes, quiet, same, frames]
      rfl
    · show c.visits (.refresh time) ++ (c.refresh time).2.visitsOf _ = []
      rw [visits_of_not_processes quiet, same]
      exact visits

/-! ## The main statement -/

/-- **Frames keep time.**  A session is called at a list of times, of which the
first proper one is `start`.  Then a time is that of a frame exactly if the interval
has passed since the frame before, or since the start.  So frames are an interval
apart, strictly in order, and take at least as many intervals as they are.  Each
advances the timers once.  If nothing fails, each reports its cycles, and no others
are run.

Suppose besides that no cycle asks to stop.  With a cycle for each
millisecond, the cycles are worth the time from the start to the last frame, or
less than a cycle for each frame more, and exactly that time if all times are whole
milliseconds.  With a fixed budget, each frame uses it up. -/
theorem frames_keep_time {c : Console σ} {interval start : Int} {early rest times : List Binary64}
    (on : c.isRunning = true) (idle : c.pacer.isIdle = true)
    (every : c.pacer.interval = .finite interval) (positive : 0 < interval)
    (improper : ∀ t ∈ early, t.isFinite = false) (called : times = early ++ .finite start :: rest)
    (exact : Binary64.Exact times) :
    c.frameTimes (early ++ [.finite start]) = []
      ∧ (∀ before time later, rest = before ++ time :: later →
        (c.after (refreshes (early ++ .finite start :: before))).isRunning = true →
        ((c.after (refreshes (early ++ .finite start :: before))).processes time = true
          ↔ ∃ t, time = .finite t ∧
            interval ≤ t - (c.frameTimes (early ++ .finite start :: before)).getLastD start))
      ∧ (start :: c.frameTimes times).IsChain (fun s t => interval ≤ t - s)
      ∧ (start :: c.frameTimes times).Pairwise (· < ·)
      ∧ (c.frameTimes times).length * interval ≤ (c.frameTimes times).getLastD start - start
      ∧ c.callsOf .tick (refreshes times) = (c.frameTimes times).length
      ∧ (c.Throughout (fun d op => d.ends op = false) (refreshes times) →
        c.callsOf .cycle (refreshes times) = (c.reportedCycles times).sum
          ∧ (c.reportedCycles times).length = (c.frameTimes times).length)
      ∧ (c.Steady (refreshes times) →
        (c.pacer.budget = .elapsed →
          (c.frameTimes times).getLastD start - start
              ≤ c.callsOf .cycle (refreshes times) * Binary64.unitsPerOne
            ∧ (c.frameTimes times ≠ [] →
              (c.callsOf .cycle (refreshes times) * Binary64.unitsPerOne : Int)
                < (c.frameTimes times).getLastD start - start
                  + (c.frameTimes times).length * Binary64.unitsPerOne)
            ∧ ((∀ t, .finite t ∈ times → (Binary64.unitsPerOne : Int) ∣ t) →
              (c.callsOf .cycle (refreshes times) * Binary64.unitsPerOne : Int)
                = (c.frameTimes times).getLastD start - start))
        ∧ ∀ count, c.pacer.budget = .fixed count →
          c.callsOf .cycle (refreshes times)
            = (c.frameTimes times).length * count.toNat) := by
  have split : times = (early ++ [.finite start]) ++ rest := by
    rw [called, List.append_assoc, List.singleton_append]
  obtain ⟨started, unframed, unvisited⟩ := start_timing on idle improper start
  have timed : (c.timed start).TimedFrom start := fun _ => rfl
  have still : (c.timed start).isRunning = true := on
  have exact' : Binary64.Exact (.finite start :: rest) := by
    refine exact.subset ?_
    rw [called]
    exact List.subset_append_right _ _
  have frames : ∀ part, c.frameTimes (early ++ .finite start :: part)
      = (c.timed start).frameTimes part := by
    intro part
    rw [List.append_cons, frameTimes_append, unframed, started, List.nil_append]
  have state : ∀ part, c.after (refreshes (early ++ .finite start :: part))
      = (c.timed start).after (refreshes part) := by
    intro part
    rw [List.append_cons, refreshes, List.map_append, after_append, ← refreshes, started]
    rfl
  have visits : ∀ part, c.visitsOf (refreshes (early ++ .finite start :: part))
      = (c.timed start).visitsOf (refreshes part) := by
    intro part
    rw [List.append_cons, refreshes, List.map_append, visitsOf_append, ← refreshes, started,
      unvisited]
    rfl
  have calls : ∀ entry, c.callsOf entry (refreshes times)
      = (c.timed start).callsOf entry (refreshes rest) := by
    intro entry
    rw [callsOf, called, visits, callsOf]
  have apart := timed.isChain_frameTimes every exact'
  refine ⟨unframed, ?_, ?_, ?_, ?_, callsOf_tick c times, callsOf_cycle_eq_sum, ?_⟩
  · intro before time later placed running
    have onward := timed.after before
    have source : .finite (((c.timed start).frameTimes before).getLastD start)
        ∈ .finite start :: before := finite_of_mem_cons_frameTimes List.getLastD_mem_cons
    rw [state] at running ⊢
    rw [frames]
    refine onward.processes_iff running ((interval_after _ _).trans every) exact' ?_ ?_
    · rw [placed]
      exact List.cons_subset_cons _ (List.subset_append_left _ _) source
    · rw [placed]
      exact List.mem_cons_of_mem _ (List.mem_append_right _ List.mem_cons_self)
  · rw [called, frames]
    exact apart
  · rw [called, frames]
    exact pairwise_of_isChain positive apart
  · rw [called, frames, ← length_gaps start, ← sum_gaps]
    exact mul_le_sum (isChain_iff_gaps.1 apart)
  · intro steady
    have steady' : (c.timed start).Steady (refreshes rest) := by
      rw [called, List.append_cons] at steady
      have later := steady.after
      rw [started] at later
      exact later
    rw [calls, called, frames]
    constructor
    · intro elapsed
      obtain ⟨low, high, whole⟩ :=
        timed.cycles_of_elapsed still every positive exact' steady' elapsed
      refine ⟨low, high, ?_⟩
      intro multiples
      exact whole fun t listed => multiples t (List.mem_append_right _ listed)
    · intro count fixed
      exact timed.cycles_of_fixed still every exact' steady' fixed

end Console

/-! ## A stall, a repetition and a step back -/

namespace Scripted

/-- A console whose session has not been called. -/
def ready : Console Scripted := (Console.ofDevices {} untouched).after [.load (core []) []]

/-- Some milliseconds, not in order. -/
def milliseconds : List Int := [0, 15, 5, 16, 16, 40, 20, 100]

/-- The times of its calls. -/
def unsteady : List Binary64 := .nan :: milliseconds.map Binary64.ofInt

end Scripted

namespace Console

/-- Frames at 16, 40 and 100 milliseconds run a hundred cycles, and report them. -/
theorem frames_keep_time_unsteady :
    Scripted.ready.frameTimes Scripted.unsteady
        = [16, 40, 100].map (· * (Binary64.unitsPerOne : Int))
      ∧ Scripted.ready.callsOf .tick (refreshes Scripted.unsteady) = 3
      ∧ Scripted.ready.callsOf .cycle (refreshes Scripted.unsteady) = 100
      ∧ (Scripted.ready.reportedCycles Scripted.unsteady).sum = 100
      ∧ (Scripted.ready.reportedCycles Scripted.unsteady).length = 3 := by
  have zero : Binary64.ofInt 0 = .finite (0 * Binary64.unitsPerOne) :=
    Binary64.ofInt_whole (by decide)
  have small : ∀ n ∈ Scripted.milliseconds, n.natAbs < 0x10000000000000 := by decide
  have exact : Binary64.Exact Scripted.unsteady :=
    (Binary64.exact_of_whole small).cons_of_improper rfl
  have steady : Scripted.ready.Steady (refreshes Scripted.unsteady) := by
    constructor
    · decide +kernel
    · decide +kernel
  have frames : Scripted.ready.frameTimes Scripted.unsteady
      = [16, 40, 100].map (· * (Binary64.unitsPerOne : Int)) := by decide +kernel
  have on : Scripted.ready.isRunning = true := by decide +kernel
  have idle : Scripted.ready.pacer.isIdle = true := by decide +kernel
  have every : Scripted.ready.pacer.interval = .finite (16 * Binary64.unitsPerOne) := by
    decide +kernel
  have positive : 0 < 16 * (Binary64.unitsPerOne : Int) := by decide +kernel
  have improper : ∀ t ∈ [Binary64.nan], t.isFinite = false := by decide
  have called : Scripted.unsteady = [.nan] ++ .finite (0 * Binary64.unitsPerOne)
      :: Scripted.milliseconds.tail.map Binary64.ofInt := by
    rw [← zero]
    rfl
  obtain ⟨_, _, _, _, _, ticks, reports, cycles⟩ :=
    frames_keep_time on idle every positive improper called exact
  obtain ⟨reported, each⟩ := reports steady.unfailing
  obtain ⟨_, _, total⟩ := (cycles steady).1 (by decide +kernel)
  have multiples : ∀ t, .finite t ∈ Scripted.unsteady → (Binary64.unitsPerOne : Int) ∣ t := by
    intro t listed
    rcases List.mem_cons.1 listed with improper | proper
    · cases improper
    · obtain ⟨whole, among, same⟩ := List.mem_map.1 proper
      rw [Binary64.ofInt_whole (small whole among)] at same
      cases same
      exact Int.dvd_mul_left _ _
  have worth := total multiples
  have one : (Binary64.unitsPerOne : Int) ≠ 0 := by decide +kernel
  rw [frames] at ticks each worth
  rw [← reported]
  suffices run : Scripted.ready.callsOf .cycle (refreshes Scripted.unsteady) = 100 from
    ⟨frames, ticks, run, run, each⟩
  generalize Scripted.ready.callsOf .cycle (refreshes Scripted.unsteady) = count at worth ⊢
  generalize (Binary64.unitsPerOne : Int) = unit at worth one
  have same : (count : Int) * unit = 100 * unit := by
    rw [worth, Int.zero_mul, Int.sub_zero]
    rfl
  exact Int.ofNat_inj.1 (Int.eq_of_mul_eq_mul_right one same)

end Console

end Chip8Console
