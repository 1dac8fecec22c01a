import Chip8Console.Proofs.Omissions
import Chip8Console.Proofs.Pacing

/-!
# Refreshes that are ignored

A refresh that answers that it waits leaves the console exactly as it found it.  So the
operations after it find the console that they would have found without it, and with the
console everything else is the same: what they answer, which calls reach the core and
with which answers, and what they leave behind.

A run is told by its *record*.  It has for each operation the console that it found, its
answer and its visits.  Refreshes that wait can be taken out of the record, any of them,
and what remains is the record of the other operations.

A refresh at an improper time waits whenever there is a session.  So refreshes at such
times can be put in anywhere.

* `Console.record`: the record of a run.
* `Console.refresh_of_waits`: a refresh that waits does nothing.
* `Console.record_of_omits`: taking refreshes out.
* `Console.record_of_improper`: putting refreshes in.
* `Console.ignored_refreshes`: the main statement.
-/

namespace Chip8Console

universe u

/-- A time that is not after the last one is too early for any interval. -/
theorem Binary64.sub_lt_of_le {last time : Int} (back : time ≤ last) {interval : Binary64}
    (positive : (Binary64.finite 0).lt interval = true) :
    ((Binary64.finite time).sub (.finite last)).lt interval = true := by
  rw [sub_eq_ofRatio]
  rcases Int.lt_or_eq_of_le back with earlier | same
  · -- the difference is rounded to a number that is not above zero
    have negative : decide (time - last < 0) = true := by
      rw [decide_eq_true_eq]
      omega
    rw [negative, ofRatio]
    split
    · cases interval with
      | nan => cases positive
      | infinite below =>
        cases below with
        | true => cases positive
        | false => rfl
      | finite units => rfl
    · cases interval with
      | nan => cases positive
      | infinite below => exact positive
      | finite units =>
        have above : 0 < units := by simpa [lt] using positive
        simp only [lt, if_true, decide_eq_true_eq]
        omega
  · have room : 0 < overflowUnits := by decide +kernel
    have zero : ofRatio (time - last < 0) (time - last).natAbs 1 = .finite 0 := by
      rw [same, Int.sub_self]
      exact ofRatio_of_dvd false (Nat.dvd_zero _) room
    rw [zero]
    exact positive

namespace Console

variable {σ : Type u}

/-! ## Records -/

/-- One operation of a run. -/
structure Happening (σ : Type u) where
  /-- The console that it finds. -/
  found : Console σ
  op : Op σ
  answer : op.Answer
  /-- The visits that it makes. -/
  visits : List Visit

/-- A refresh that answered that it waits. -/
def Happening.Waits : Happening σ → Prop
  | ⟨_, .refresh _, answer, _⟩ => answer = .ok .waiting
  | _ => False

/-- A refresh at an improper time. -/
def Op.IsImproper : Op σ → Prop
  | .refresh time => time.isFinite = false
  | _ => False

/-- A refresh at an improper time that did nothing.  It waited if there was a session. -/
def Happening.IsOverlooked : Happening σ → Prop
  | ⟨found, .refresh time, answer, visits⟩ =>
      time.isFinite = false ∧ answer = .ok (if found.isRunning then .waiting else .stopped)
        ∧ visits = []
  | _ => False

variable [Interpreter σ]

/-- The record of a run. -/
def record (c : Console σ) : List (Op σ) → List (Happening σ)
  | [] => []
  | op :: rest => ⟨c, op, (c.perform op).1, c.visits op⟩ :: (c.perform op).2.record rest

/-! ## Refreshes that wait -/

/-- A session waits at an improper time, and until the interval has passed. -/
theorem refresh_waits_iff {c : Console σ} {time : Binary64} :
    (c.refresh time).1 = .ok .waiting
      ↔ c.isRunning = true ∧ (time.isFinite = false
        ∨ ∃ last, c.pacer.lastTime = some last ∧ (time.sub last).lt c.pacer.interval = true) := by
  constructor
  · intro waits
    cases on : c.isRunning with
    | false =>
      rw [(refresh_of_not_running on time).1] at waits
      cases waits
    | true =>
      obtain ⟨core, running⟩ := isRunning_iff.1 on
      obtain ⟨_, _, refreshed, _⟩ := refreshed_of_ok running waits
      cases refreshed with
      | waiting notYet => exact ⟨rfl, notYet⟩
  · rintro ⟨on, notYet⟩
    obtain ⟨core, running⟩ := isRunning_iff.1 on
    have early : c.pacer.due? time = none := by
      rw [Option.eq_none_iff_forall_ne_some]
      intro elapsed due
      obtain ⟨finite, last, recorded, _, late⟩ := Pacer.due?_eq_some.1 due
      rcases notYet with improper | ⟨_, same, tooEarly⟩
      · rw [finite] at improper
        cases improper
      · rw [recorded] at same
        cases same
        rw [late] at tooEarly
        cases tooEarly
    have passed : (time.isFinite && c.pacer.isIdle) = false := by
      rcases notYet with improper | ⟨last, recorded, _⟩
      · rw [improper, Bool.false_and]
      · rw [Pacer.isIdle, recorded, Option.isNone_some, Bool.and_false]
    rw [answer_refresh running, Pacer.refresh_of_not_due early, Pacer.pass, passed]
    rfl

/-- A refresh that waits does nothing. -/
theorem refresh_of_waits {c : Console σ} {time : Binary64}
    (waits : (c.refresh time).1 = .ok .waiting) :
    (c.refresh time).2 = c ∧ c.visits (.refresh time) = [] := by
  obtain ⟨core, running⟩ := isRunning_iff.1 (refresh_waits_iff.1 waits).1
  obtain ⟨pacer, last, refreshed, left⟩ := refreshed_of_ok running waits
  cases refreshed with
  | waiting notYet quiet =>
    rw [visits_of_running running]
    refine ⟨?_, quiet⟩
    rw [left, machine, ← running]

/-- A refresh at an improper time does nothing. -/
theorem overlooked_of_improper (c : Console σ) {time : Binary64}
    (improper : time.isFinite = false) :
    Happening.IsOverlooked ⟨c, .refresh time, (c.refresh time).1, c.visits (.refresh time)⟩
      ∧ (c.refresh time).2 = c := by
  cases on : c.isRunning with
  | true =>
    have waits := refresh_waits_iff.2 ⟨on, .inl improper⟩
    obtain ⟨same, quiet⟩ := refresh_of_waits waits
    refine ⟨⟨improper, ?_, quiet⟩, same⟩
    rw [on]
    exact waits
  | false =>
    obtain ⟨stopped, quiet⟩ := refresh_of_not_running on time
    refine ⟨⟨improper, ?_, quiet⟩, by rw [stopped]⟩
    rw [on, stopped]
    rfl

/-! ## Taking refreshes out and putting them in -/

/-- Without some of the refreshes that wait, the others find the same, answer the same
and leave the same behind. -/
theorem record_of_omits {c : Console σ} {ops : List (Op σ)} {kept : List (Happening σ)}
    (omits : Omits Happening.Waits (c.record ops) kept) :
    c.record (kept.map Happening.op) = kept
      ∧ c.visitsOf (kept.map Happening.op) = c.visitsOf ops
      ∧ c.after (kept.map Happening.op) = c.after ops := by
  induction ops generalizing c kept with
  | nil =>
    cases omits
    exact ⟨rfl, rfl, rfl⟩
  | cons op rest ih =>
    cases omits with
    | keep others =>
      obtain ⟨record, visits, left⟩ := ih others
      exact ⟨congrArg _ record, congrArg (c.visits op ++ ·) visits, left⟩
    | leaveOut waits others =>
      cases op with
      | refresh time =>
        obtain ⟨same, quiet⟩ := refresh_of_waits waits
        have next : (c.perform (.refresh time)).2 = c := same
        -- so the rest of the record is one of this console
        rw [next] at others
        rw [visitsOf, after, next, quiet]
        exact ih others
      | _ => exact absurd waits not_false

/-- With refreshes at improper times put in, the others find the same, answer the same
and leave the same behind. -/
theorem record_of_improper {c : Console σ} {more ops : List (Op σ)}
    (omits : Omits Op.IsImproper more ops) :
    Omits Happening.IsOverlooked (c.record more) (c.record ops)
      ∧ c.visitsOf more = c.visitsOf ops ∧ c.after more = c.after ops := by
  induction omits generalizing c with
  | nil => exact ⟨.nil, rfl, rfl⟩
  | @keep op _ _ _ ih =>
    obtain ⟨record, visits, left⟩ := ih (c := (c.perform op).2)
    exact ⟨.keep record, congrArg (c.visits op ++ ·) visits, left⟩
  | @leaveOut op _ _ improper _ ih =>
    cases op with
    | refresh time =>
      obtain ⟨overlooked, same⟩ := c.overlooked_of_improper improper
      obtain ⟨record, visits, left⟩ := ih (c := c)
      have next : (c.perform (.refresh time)).2 = c := same
      have quiet : c.visits (.refresh time) = [] := overlooked.2.2
      refine ⟨.leaveOut overlooked ?_, ?_, ?_⟩
      · rw [next]
        exact record
      · rw [visitsOf, next, quiet]
        exact visits
      · rw [after, next]
        exact left
    | _ => exact absurd improper not_false

/-- **Ignored refreshes leave no trace.**  Take any run of a console.  Any of the refreshes
that answered that they wait can be taken out.  Then each other operation finds the same
console, answers the same and makes the same visits of the core, and the run leaves the
same console behind.  Refreshes at improper times can be put in anywhere.  They wait if
there is a session and only answer that there is none if not, they make no visit, and for
the other operations all is the same.

A refresh waits exactly if there is a session, and its time is improper or the interval
has not passed since the recorded time.  So it does if it goes back in time, with any
interval above zero. -/
theorem ignored_refreshes (c : Console σ) :
    (∀ (ops : List (Op σ)) (kept : List (Happening σ)), Omits Happening.Waits (c.record ops) kept →
        c.record (kept.map Happening.op) = kept
          ∧ c.visitsOf (kept.map Happening.op) = c.visitsOf ops
          ∧ c.after (kept.map Happening.op) = c.after ops)
      ∧ (∀ more ops : List (Op σ), Omits Op.IsImproper more ops →
        Omits Happening.IsOverlooked (c.record more) (c.record ops)
          ∧ c.visitsOf more = c.visitsOf ops ∧ c.after more = c.after ops)
      ∧ (∀ time, (c.refresh time).1 = .ok .waiting
        ↔ c.isRunning = true ∧ (time.isFinite = false
          ∨ ∃ last, c.pacer.lastTime = some last ∧ (time.sub last).lt c.pacer.interval = true))
      ∧ (∀ last time : Int, c.isRunning = true → c.pacer.lastTime = some (.finite last) →
        (Binary64.finite 0).lt c.pacer.interval = true → time ≤ last →
          (c.refresh (.finite time)).1 = .ok .waiting) := by
  refine ⟨fun ops kept => record_of_omits, fun more ops => record_of_improper,
    fun time => refresh_waits_iff, ?_⟩
  intro last time on recorded positive back
  exact refresh_waits_iff.2 ⟨on, .inr ⟨_, recorded, Binary64.sub_lt_of_le back positive⟩⟩

end Console

/-! ## A session that draws once a key is down -/

namespace Scripted

/-- A session whose core draws in its first cycle if the key is down. -/
def doodling : Console Scripted := (Console.ofDevices {} untouched).after [
  .load (core [.call (.isKeyDown 10) fun
    | true => .call (.togglePixel 3 2) fun _ => .done (.ok true)
    | false => .done (.ok true)]) []]

/-- A key goes down before the first frame. -/
def doodle : List (Console.Op Scripted) := [
  .refresh (.ofInt 0), .devices (.keypad (.press 'z')), .refresh (.ofInt 16),
  .refresh (.ofInt 40)]

/-- The same with a refresh that is early and one that goes back. -/
def hastyDoodle : List (Console.Op Scripted) := [
  .refresh (.ofInt 0), .refresh (.ofInt 10), .devices (.keypad (.press 'z')),
  .refresh (.ofInt 16), .refresh (.ofInt 3), .refresh (.ofInt 40)]

/-- And with refreshes at no time at all. -/
def brokenDoodle : List (Console.Op Scripted) := [
  .refresh .nan, .refresh (.ofInt 0), .refresh (.ofInt 10), .devices (.keypad (.press 'z')),
  .refresh (.infinite false), .refresh (.ofInt 16), .refresh (.ofInt 3), .refresh (.ofInt 40)]

end Scripted

namespace Console

/-- Four of the refreshes leave no trace. -/
theorem ignored_refreshes_doodle :
    Scripted.doodling.after Scripted.brokenDoodle = Scripted.doodling.after Scripted.doodle
      ∧ Scripted.doodling.visitsOf Scripted.brokenDoodle
        = Scripted.doodling.visitsOf Scripted.doodle := by
  obtain ⟨takenOut, putIn, _, _⟩ := ignored_refreshes Scripted.doodling
  have improper : Omits Op.IsImproper Scripted.brokenDoodle Scripted.hastyDoodle :=
    .leaveOut rfl (.keep (.keep (.keep (.leaveOut rfl (.keep (.keep (.keep .nil)))))))
  obtain ⟨_, visits, left⟩ := putIn _ _ improper
  -- the refresh at ten milliseconds is early
  let begun := Scripted.doodling.after (Scripted.hastyDoodle.take 1)
  obtain ⟨_, _, waits, _⟩ := ignored_refreshes begun
  have early : (begun.refresh (.ofInt 10)).1 = .ok .waiting :=
    (waits _).2 ⟨by decide +kernel, .inr ⟨.ofInt 0, by decide +kernel, by decide +kernel⟩⟩
  -- the one at three milliseconds comes after the one at sixteen
  let drawn := Scripted.doodling.after (Scripted.hastyDoodle.take 4)
  obtain ⟨_, _, _, goesBack⟩ := ignored_refreshes drawn
  have back : (drawn.refresh (.ofInt 3)).1 = .ok .waiting := by
    rw [Binary64.ofInt_whole (by decide)]
    exact goesBack (16 * Binary64.unitsPerOne) _ (by decide +kernel) (by decide +kernel)
      (by decide +kernel) (by decide +kernel)
  obtain ⟨_, fewer, alike⟩ := takenOut Scripted.hastyDoodle _
    (.keep (.leaveOut early (.keep (.keep (.leaveOut back (.keep .nil))))))
  exact ⟨left.trans alike.symm, visits.trans fewer.symm⟩

end Console

end Chip8Console
