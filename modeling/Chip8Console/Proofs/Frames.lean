import Chip8Console.Proofs.DeviceCalls
import Chip8Console.Proofs.Scripted
import Chip8Console.Proofs.Visits

/-!
# One refresh is one frame

A refresh that succeeds either leaves core and devices alone, or it processed
one well-formed frame.  Such a frame counts the timers down once, runs as many
cycles as it reports, and then presents the back plane.  The number of cycles is
the budget, or the number of the first cycle that asked to stop if that is
smaller.  The frame is early exactly if its last cycle asked to stop.

* `WellFormedFrame`: what is asked of the visits of a frame.
* `Machine.frame_wellFormed`: a frame that succeeds has such visits.
* `Pacer.refresh_one_frame`: the main statement.
-/

namespace Chip8Console

universe u

variable {σ : Type u}

/-- The visit succeeded and asked to stop. -/
def Visit.asksToStop (v : Visit) : Bool :=
  match v.result with
  | .ok stop => stop
  | .error _ => false

theorem Visit.asksToStop_of_result {v : Visit} {stop : Bool} (h : v.result = .ok stop) :
    v.asksToStop = stop := by
  rw [asksToStop, h]

/-- The visits of a frame of so many cycles, within a budget. -/
structure WellFormedFrame (budget count : Nat) (early : Bool) (visits : List Visit) : Prop where
  /-- The timers are counted down once, and then the cycles run. -/
  entries : visits.map Visit.entry = .tick :: List.replicate count .cycle
  /-- No visit failed. -/
  succeeded : ∀ v ∈ visits, v.result = .ok v.asksToStop
  /-- The budget and the first cycle that asked to stop bound the count. -/
  count_eq : count = min budget (visits.tail.findIdx Visit.asksToStop + 1)
  /-- A frame is early if its last cycle was run and asked to stop. -/
  early_iff : early = true ↔ ∃ final, visits.tail.getLast? = some final ∧ final.result = .ok true

namespace WellFormedFrame

variable {budget count : Nat} {early : Bool} {visits : List Visit}

theorem count_le_budget (h : WellFormedFrame budget count early visits) : count ≤ budget := by
  rw [h.count_eq]
  exact Nat.min_le_left _ _

theorem length_tail (h : WellFormedFrame budget count early visits) :
    visits.tail.length = count := by
  have lengths := congrArg List.length h.entries
  simp only [List.length_map, List.length_cons, List.length_replicate] at lengths
  rw [List.length_tail, lengths, Nat.add_sub_cancel]

/-- A frame that does not use up its budget is early. -/
theorem early_of_lt (h : WellFormedFrame budget count early visits) (short : count < budget) :
    early = true := by
  have index : visits.tail.findIdx Visit.asksToStop + 1 = visits.tail.length := by
    have := h.count_eq
    rw [h.length_tail]
    omega
  have inside : visits.tail.findIdx Visit.asksToStop < visits.tail.length := by omega
  refine h.early_iff.2 ⟨visits.tail[visits.tail.findIdx Visit.asksToStop], ?_, ?_⟩
  · rw [List.getLast?_eq_getElem?, ← index, Nat.add_sub_cancel, List.getElem?_eq_getElem inside]
  · have member : visits.tail[visits.tail.findIdx Visit.asksToStop] ∈ visits :=
      List.mem_of_mem_tail (List.getElem_mem inside)
    have asked : visits.tail[visits.tail.findIdx Visit.asksToStop].asksToStop = true :=
      List.findIdx_getElem
    rw [h.succeeded _ member, asked]

/-- Without a budget there are only the timers. -/
theorem of_zero (h : WellFormedFrame 0 count early visits) :
    count = 0 ∧ early = false ∧ visits.map Visit.entry = [.tick] := by
  have zero : count = 0 := Nat.le_zero.1 h.count_le_budget
  have alone : visits.tail = [] := List.eq_nil_of_length_eq_zero (h.length_tail.trans zero)
  refine ⟨zero, ?_, ?_⟩
  · rw [Bool.eq_false_iff]
    intro ended
    obtain ⟨final, last, _⟩ := h.early_iff.1 ended
    rw [alone] at last
    cases last
  · rw [h.entries, zero, List.replicate_zero]

end WellFormedFrame

namespace Machine

variable [Interpreter σ]

/-- A walk along cycles that does not fail, after visits of the timers. -/
theorem wellFormed_of_cycles {next : Machine σ} {budget : Nat} {early : Bool} {first : Visit}
    (tick : first.entry = .tick) (onward : first.result = .ok false)
    (ended : (next.walk (List.replicate budget .cycle)).outcome = .ok early) :
    WellFormedFrame budget (next.walk (List.replicate budget .cycle)).visits.length early
      (first :: (next.walk (List.replicate budget .cycle)).visits) := by
  have within := entries_walk_prefix next (List.replicate budget .cycle)
  have split := walk_ok ended
  generalize (next.walk (List.replicate budget .cycle)).visits = cycles at within split ⊢
  have cyclesOnly : cycles.map Visit.entry = List.replicate cycles.length .cycle := by
    obtain ⟨_, same⟩ := List.prefix_replicate_iff.1 within
    rwa [List.length_map] at same
  have short : cycles.length ≤ budget := by
    simpa using within.length_le
  have first_quiet : first.result = .ok first.asksToStop := by
    rw [Visit.asksToStop_of_result onward, onward]
  have entries : (first :: cycles).map Visit.entry
      = .tick :: List.replicate cycles.length .cycle := by
    rw [List.map_cons, tick, cyclesOnly]
  rcases split with ⟨rfl, whole, each⟩ | ⟨rfl, earlier, final, rest, rfl, _, each, last⟩
  · -- the budget was used up and nobody asked to stop
    have quiet : ∀ v ∈ cycles, v.asksToStop = false := fun v member =>
      Visit.asksToStop_of_result (each v member)
    have used : cycles.length = budget := by
      simpa using congrArg List.length whole
    refine ⟨entries, ?_, ?_, ?_⟩
    · intro v member
      rcases List.mem_cons.1 member with rfl | member
      · exact first_quiet
      · rw [quiet v member, each v member]
    · rw [List.tail_cons, List.findIdx_eq_length_of_false quiet]
      omega
    · constructor
      · intro absurd
        cases absurd
      · rintro ⟨final, last, asked⟩
        rw [each final (List.mem_of_getLast? last)] at asked
        cases asked
  · -- the last cycle asked to stop and none before it
    have asks : final.asksToStop = true := Visit.asksToStop_of_result last
    have quiet : ∀ v ∈ earlier, v.asksToStop = false := fun v member =>
      Visit.asksToStop_of_result (each v member)
    refine ⟨entries, ?_, ?_, ?_⟩
    · intro v member
      rcases List.mem_cons.1 member with rfl | member
      · exact first_quiet
      · rcases List.mem_append.1 member with member | member
        · rw [quiet v member, each v member]
        · rw [List.mem_singleton.1 member, asks, last]
    · have index : (earlier ++ [final]).findIdx Visit.asksToStop = earlier.length := by
        rw [List.findIdx_append, List.findIdx_eq_length_of_false quiet]
        simp [asks]
      rw [List.tail_cons, index]
      rw [List.length_append, List.length_singleton] at short ⊢
      omega
    · constructor
      · intro _
        exact ⟨final, by rw [List.tail_cons, List.getLast?_concat], last⟩
      · intro _
        rfl

/-- A frame that succeeds is well formed, and presents the back plane that its
last visit left. -/
theorem frame_wellFormed {m after : Machine σ} {budget : Nat} {outcome : RefreshOutcome}
    (processed : m.frame budget = (.ok outcome, after)) :
    ∃ count early, outcome = .frame count early
      ∧ WellFormedFrame budget count early (m.walk (frameSchedule budget)).visits
      ∧ after = (m.walk (frameSchedule budget)).last.present := by
  rw [frame_eq_walk] at processed
  rcases entered : m.enter Entry.tick.point with ⟨ticked, next⟩
  cases ticked with
  | error failure =>
    rw [frameSchedule, walk_failed _ entered] at processed
    cases processed
  | ok stop =>
    cases stop with
    | true => exact absurd (by rw [entered]) (m.enter_tick_ne_stop)
    | false =>
      rw [frameSchedule, walk_onward _ entered] at processed ⊢
      cases ended : (next.walk (List.replicate budget .cycle)).outcome with
      | error failure =>
        rw [ended] at processed
        cases processed
      | ok early =>
        rw [ended] at processed
        cases processed
        exact ⟨_, early, rfl, wellFormed_of_cycles rfl (result_visit entered) ended, rfl⟩

/-- The plane on display is out of reach of a core. -/
theorem front_walk (m : Machine σ) (entries : List Entry) :
    (m.walk entries).last.devices.screen.front = m.devices.screen.front :=
  view_walk (fun d => d.screen.front) Devices.front_answer (fun _ => rfl) m entries

end Machine

/-! ## One refresh -/

namespace Pacer

variable [Interpreter σ]

/-- What a refresh did that answered an outcome and left a pacer and a machine
behind. -/
inductive Refreshed (p : Pacer) (time : Binary64) (m : Machine σ) :
    RefreshOutcome → Pacer → Machine σ → Prop where
  /-- The first refresh records its time. -/
  | started (finite : time.isFinite = true) (idle : p.lastTime = none)
      (quiet : p.visits time m = []) :
      Refreshed p time m .started { p with lastTime := some time } m
  /-- A refresh that is too early, or has no proper time, does nothing. -/
  | waiting (notYet : time.isFinite = false
        ∨ ∃ last, p.lastTime = some last ∧ (time.sub last).lt p.interval = true)
      (quiet : p.visits time m = []) : Refreshed p time m .waiting p m
  /-- A refresh that is due records its time, goes through a frame, and presents
  what its last visit left behind a front plane that nobody touched. -/
  | frame {last : Binary64} {count : Nat} {early : Bool} (finite : time.isFinite = true)
      (recorded : p.lastTime = some last) (late : (time.sub last).lt p.interval = false)
      (visits : WellFormedFrame (p.budget.cycles (time.sub last)) count early (p.visits time m))
      (front : (m.walk (p.schedule time)).last.devices.screen.front = m.devices.screen.front) :
      Refreshed p time m (.frame count early) { p with lastTime := some time }
        (m.walk (p.schedule time)).last.present

/-- A refresh is due once the interval has passed since the last one. -/
theorem due?_eq_some {p : Pacer} {time elapsed : Binary64} :
    p.due? time = some elapsed
      ↔ time.isFinite = true ∧ ∃ last, p.lastTime = some last ∧ elapsed = time.sub last
          ∧ (time.sub last).lt p.interval = false := by
  unfold due?
  cases time.isFinite with
  | false => simp
  | true =>
    cases p.lastTime with
    | none => simp
    | some last =>
      cases h : (time.sub last).lt p.interval with
      | false =>
        simp only [if_true, h, Bool.false_eq_true, if_false, Option.some.injEq, true_and]
        constructor
        · rintro rfl
          exact ⟨last, rfl, rfl, h⟩
        · rintro ⟨_, rfl, rfl, _⟩
          rfl
      | true => simp [h]

theorem schedule_of_due {p : Pacer} {time elapsed : Binary64} (due : p.due? time = some elapsed) :
    p.schedule time = frameSchedule (p.budget.cycles elapsed) := by
  rw [schedule, due]

theorem visits_of_not_due {p : Pacer} {time : Binary64} (early : p.due? time = none)
    (m : Machine σ) : p.visits time m = [] := by
  rw [visits, schedule, early, Machine.walk_nil]

theorem refreshed_of_refresh {p p' : Pacer} {time : Binary64} {m m' : Machine σ}
    {outcome : RefreshOutcome} (done : p.refresh time m = (.ok outcome, p', m')) :
    p.Refreshed time m outcome p' m' := by
  cases due : p.due? time with
  | none =>
    have quiet := visits_of_not_due due m
    rw [refresh_of_not_due due, pass, isIdle] at done
    unfold due? at due
    cases finite : time.isFinite with
    | false =>
      rw [finite] at done
      cases done
      exact .waiting (.inl finite) quiet
    | true =>
      cases recorded : p.lastTime with
      | none =>
        rw [finite, recorded] at done
        cases done
        exact .started finite recorded quiet
      | some last =>
        rw [finite, recorded] at done
        cases done
        refine .waiting (.inr ⟨last, recorded, ?_⟩) quiet
        rw [finite, recorded] at due
        simpa using due
  | some elapsed =>
    obtain ⟨finite, last, recorded, rfl, late⟩ := due?_eq_some.1 due
    rw [refresh_of_due due] at done
    rcases processed : m.frame (p.budget.cycles (time.sub last)) with ⟨answer, after⟩
    rw [processed] at done
    cases done
    obtain ⟨count, early, rfl, wellFormed, rfl⟩ := Machine.frame_wellFormed processed
    rw [← schedule_of_due due] at wellFormed ⊢
    exact .frame finite recorded late wellFormed (m.front_walk _)

/-- **One refresh is one well-formed frame.**  A refresh that succeeds did
nothing, or it processed one frame.  A frame leaves what its last visit left,
but that the back plane is on display now.  The cycles of a frame are within its
budget.  If they do not use it up the frame is early, and some core ends its
frame early with the last cycle of a budget.  Without a budget the timers are
counted down all the same, and no cycle runs. -/
theorem refresh_one_frame (p : Pacer) (time : Binary64) :
    (∀ (m : Machine σ) outcome p' m', p.refresh time m = (.ok outcome, p', m') →
        p.Refreshed time m outcome p' m')
      ∧ (∀ (m : Machine σ) count early p' m', p.refresh time m = (.ok (.frame count early), p', m') →
        m' = { (m.walk (p.schedule time)).last with
            devices.screen.front := (m.walk (p.schedule time)).last.devices.screen.back }
        ∧ ∃ elapsed, p.due? time = some elapsed ∧ count ≤ p.budget.cycles elapsed
          ∧ (count < p.budget.cycles elapsed → early = true)
          ∧ (p.budget.cycles elapsed = 0 →
              count = 0 ∧ early = false ∧ (p.visits time m).map Visit.entry = [.tick]))
      ∧ (∀ elapsed, p.due? time = some elapsed → 0 < p.budget.cycles elapsed →
        ∃ m : Machine Scripted,
          (p.refresh time m).1 = .ok (.frame (p.budget.cycles elapsed) true)) := by
  refine ⟨fun m outcome p' m' => refreshed_of_refresh, ?_, ?_⟩
  · intro m count early p' m' done
    cases refreshed_of_refresh done with
    | @frame last _ _ finite recorded late wellFormed _ =>
      refine ⟨rfl, _, due?_eq_some.2 ⟨finite, last, recorded, rfl, late⟩,
        wellFormed.count_le_budget, wellFormed.early_of_lt, ?_⟩
      intro nothing
      rw [nothing] at wellFormed
      exact wellFormed.of_zero
  · intro elapsed due some_budget
    obtain ⟨quiet, same⟩ := Nat.exists_eq_succ_of_ne_zero (Nat.pos_iff_ne_zero.1 some_budget)
    refine ⟨Scripted.asking quiet, ?_⟩
    rw [refresh_of_due due, same, Nat.succ_eq_add_one]
    exact Scripted.frame_stopAfter rfl quiet

/-- A core that asks to stop in the last of three cycles. -/
theorem refresh_one_frame_asked :
    ∃ p' m', Scripted.threeCycles.refresh (Binary64.ofInt 16) (Scripted.asking 2)
        = (.ok (.frame 3 true), p', m')
      ∧ Scripted.threeCycles.Refreshed (Binary64.ofInt 16) (Scripted.asking 2)
        (.frame 3 true) p' m' := by
  have due : Scripted.threeCycles.due? (Binary64.ofInt 16) = some (Binary64.ofInt 16) := by
    decide +kernel
  have answered : (Scripted.threeCycles.refresh (Binary64.ofInt 16) (Scripted.asking 2)).1
      = .ok (.frame 3 true) := by
    rw [refresh_of_due due]
    exact Scripted.frame_stopAfter rfl 2
  generalize run : Scripted.threeCycles.refresh (Binary64.ofInt 16) (Scripted.asking 2) = done
    at answered ⊢
  obtain ⟨answer, p', m'⟩ := done
  cases answered
  exact ⟨p', m', rfl, (refresh_one_frame _ _).1 _ _ _ _ run⟩

end Pacer

end Chip8Console
