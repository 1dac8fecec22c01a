import Chip8Console.Proofs.Faults

/-!
# Tones on record

The speaker's record tells what became of every tone.  It falls into *blocks*: a
few refused requests to start, one that is granted, and one request to stop,
which may be refused as well.  Only the last block may be unfinished, and it
ends in a tone exactly if the switch is on.

A refused request to stop ends its block all the same.  The switch is off then
and the tone goes on, and nobody asks for its end again.  So the tones that go
on are the one behind the switch and one for each such refusal.

* `InBlocks`: the shape of a record.
* `Beeper.inBlocks_after`: records have that shape, whatever the speaker answers.
* `InBlocks.balance_eq`, `InBlocks.eachStoppedOnce`: what follows from the shape.
* `Speaker.Willing`: speakers that never refuse, so the beeper does not fail.
* `Beeper.tone_account`: the main statement.
-/

namespace Chip8Console

namespace SpeakerCall

theorem balance_append (earlier later : List SpeakerCall) :
    balance (earlier ++ later) = balance earlier + balance later := by
  induction earlier with
  | nil => simp [balance]
  | cons call rest ih =>
    rw [List.cons_append, balance, balance, ih]
    omega

/-- A request to stop that was refused. -/
def isRefusedStop : SpeakerCall → Bool
  | ⟨.stop, some _⟩ => true
  | _ => false

/-- How many requests to stop were refused. -/
def refusedStops (calls : List SpeakerCall) : Nat := calls.countP isRefusedStop

@[simp] theorem refusedStops_append (earlier later : List SpeakerCall) :
    refusedStops (earlier ++ later) = refusedStops earlier + refusedStops later :=
  List.countP_append

theorem refusedStops_eq_zero {calls : List SpeakerCall} :
    refusedStops calls = 0 ↔ ∀ call ∈ calls, call.request = .stop → call.answer = none := by
  rw [refusedStops, List.countP_eq_zero]
  constructor
  · intro granted call asked stop
    obtain ⟨request, answer⟩ := call
    cases stop
    cases answer with
    | none => rfl
    | some text => exact absurd rfl (granted _ asked)
  · intro granted call asked refused
    obtain ⟨request, answer⟩ := call
    cases request with
    | beep => cases refused
    | stop =>
      cases granted _ asked rfl
      cases refused

end SpeakerCall

open SpeakerCall

/-! ## Blocks -/

/-- Requests to start that were all refused. -/
def refusedBeeps (texts : List String) : List SpeakerCall := texts.map fun text => ⟨.beep, some text⟩

/-- What is on record about one tone. -/
structure ToneBlock where
  /-- The refusals before it started. -/
  refusals : List String
  /-- What was answered when it was to stop. -/
  stop : SpeakerAnswer

/-- The requests of a block, in order. -/
def ToneBlock.calls (b : ToneBlock) : List SpeakerCall :=
  refusedBeeps b.refusals ++ [⟨.beep, none⟩, ⟨.stop, b.stop⟩]

/-- A record made of blocks.  The last one may be unfinished, and ends in a tone
if `sounding` is true. -/
def InBlocks (sounding : Bool) (calls : List SpeakerCall) : Prop :=
  ∃ (blocks : List ToneBlock) (refusals : List String),
    calls = blocks.flatMap ToneBlock.calls ++ refusedBeeps refusals
      ++ if sounding then [⟨.beep, none⟩] else []

/-- Every tone on record was to stop, exactly once: the request comes next, and
after that at most a request to start. -/
def EachStoppedOnce (calls : List SpeakerCall) : Prop :=
  ∀ earlier later, calls = earlier ++ ⟨.beep, none⟩ :: later →
    ∃ answer rest, later = ⟨.stop, answer⟩ :: rest
      ∧ ∀ next, rest.head? = some next → next.request = .beep

namespace EachStoppedOnce

theorem nil : EachStoppedOnce [] := by
  intro earlier later split
  cases earlier with
  | nil => cases split
  | cons first rest => cases split

variable {calls : List SpeakerCall}

theorem refused (once : EachStoppedOnce calls) (text : String) :
    EachStoppedOnce (⟨.beep, some text⟩ :: calls) := by
  intro earlier later split
  cases earlier with
  | nil => cases split
  | cons first rest => exact once rest later (List.cons.inj split).2

theorem refusedBeeps (once : EachStoppedOnce calls) (texts : List String) :
    EachStoppedOnce (refusedBeeps texts ++ calls) := by
  induction texts with
  | nil => exact once
  | cons text rest ih => exact ih.refused text

/-- A tone that is to stop before anything else is asked. -/
theorem tone (once : EachStoppedOnce calls) (answer : SpeakerAnswer)
    (beep : ∀ next, calls.head? = some next → next.request = .beep) :
    EachStoppedOnce (⟨.beep, none⟩ :: ⟨.stop, answer⟩ :: calls) := by
  intro earlier later split
  cases earlier with
  | nil =>
    cases split
    exact ⟨answer, calls, rfl, beep⟩
  | cons first rest =>
    cases rest with
    | nil => cases split
    | cons second rest => exact once rest later (List.cons.inj (List.cons.inj split).2).2

end EachStoppedOnce

theorem balance_refusedBeeps (texts : List String) : balance (refusedBeeps texts) = 0 := by
  induction texts with
  | nil => rfl
  | cons text rest ih =>
    rw [refusedBeeps, List.map_cons, balance, ← refusedBeeps, ih]
    rfl

theorem refusedStops_refusedBeeps (texts : List String) : refusedStops (refusedBeeps texts) = 0 := by
  rw [refusedStops_eq_zero]
  intro call asked stop
  obtain ⟨text, _, rfl⟩ := List.mem_map.1 asked
  cases stop

/-- A finished block leaves a tone behind if its end was refused. -/
theorem ToneBlock.balance_calls (b : ToneBlock) : balance b.calls = refusedStops b.calls := by
  rw [calls, balance_append, refusedStops_append, balance_refusedBeeps, refusedStops_refusedBeeps]
  cases b.stop with
  | none => rfl
  | some text => rfl

/-- A block begins with a request to start. -/
theorem ToneBlock.head_calls (b : ToneBlock) (rest : List SpeakerCall) :
    ∀ next, (b.calls ++ rest).head? = some next → next.request = .beep := by
  intro next first
  obtain ⟨refusals, stop⟩ := b
  cases refusals with
  | nil =>
    cases first
    rfl
  | cons text texts =>
    cases first
    rfl

namespace InBlocks

theorem empty : InBlocks false [] := ⟨[], [], rfl⟩

variable {calls : List SpeakerCall}

theorem refused (h : InBlocks false calls) (text : String) :
    InBlocks false (calls ++ [⟨.beep, some text⟩]) := by
  obtain ⟨blocks, refusals, rfl⟩ := h
  refine ⟨blocks, refusals ++ [text], ?_⟩
  simp [refusedBeeps]

theorem started (h : InBlocks false calls) : InBlocks true (calls ++ [⟨.beep, none⟩]) := by
  obtain ⟨blocks, refusals, rfl⟩ := h
  refine ⟨blocks, refusals, ?_⟩
  simp

theorem stopped (h : InBlocks true calls) (answer : SpeakerAnswer) :
    InBlocks false (calls ++ [⟨.stop, answer⟩]) := by
  obtain ⟨blocks, refusals, rfl⟩ := h
  refine ⟨blocks ++ [⟨refusals, answer⟩], [], ?_⟩
  simp [ToneBlock.calls, refusedBeeps]

/-- The tones that go on: the one of the unfinished block, and those whose end
was refused. -/
theorem balance_eq {sounding : Bool} (h : InBlocks sounding calls) :
    balance calls = (if sounding then 1 else 0) + refusedStops calls := by
  obtain ⟨blocks, refusals, rfl⟩ := h
  have finished : balance (blocks.flatMap ToneBlock.calls)
      = refusedStops (blocks.flatMap ToneBlock.calls) := by
    induction blocks with
    | nil => rfl
    | cons block rest ih =>
      rw [List.flatMap_cons, balance_append, refusedStops_append, ih, block.balance_calls]
      omega
  have last : balance (if sounding then [⟨.beep, none⟩] else []) = if sounding then 1 else 0 := by
    cases sounding with
    | false => rfl
    | true => rfl
  have granted : refusedStops (if sounding then [⟨.beep, none⟩] else []) = 0 := by
    cases sounding with
    | false => rfl
    | true => rfl
  rw [balance_append, balance_append, finished, balance_refusedBeeps, last, refusedStops_append,
    refusedStops_append, refusedStops_refusedBeeps, granted]
  omega

/-- In finished blocks every tone was to stop, once. -/
theorem eachStoppedOnce (h : InBlocks false calls) : EachStoppedOnce calls := by
  obtain ⟨blocks, refusals, rfl⟩ := h
  rw [if_neg Bool.false_ne_true, List.append_nil]
  -- the tone of a block is to stop within it, and what follows is a request to start
  induction blocks with
  | nil =>
    have alone := EachStoppedOnce.nil.refusedBeeps refusals
    rwa [List.append_nil] at alone
  | cons block rest ih =>
    rw [List.flatMap_cons, List.append_assoc, ToneBlock.calls, List.append_assoc]
    refine EachStoppedOnce.refusedBeeps (EachStoppedOnce.tone ih block.stop ?_) block.refusals
    intro next first
    cases rest with
    | nil =>
      obtain ⟨text, _, rfl⟩ := List.mem_map.1 (List.mem_of_mem_head? first)
      rfl
    | cons other others =>
      rw [List.flatMap_cons, List.append_assoc] at first
      exact other.head_calls _ next first

end InBlocks

/-! ## Beepers -/

/-- A speaker that has only grants to give grants the next request. -/
theorem Speaker.head_answer_eq_none {answers : List SpeakerAnswer}
    (willing : ∀ answer ∈ answers, answer = none) : answers.head?.join = none := by
  cases answers with
  | nil => rfl
  | cons first rest => exact willing first List.mem_cons_self

/-- The speaker will grant every request. -/
structure Speaker.Willing (s : Speaker) : Prop where
  starts : ∀ answer ∈ s.beepAnswers, answer = none
  stops : ∀ answer ∈ s.stopAnswers, answer = none

namespace Speaker.Willing

variable {s : Speaker}

theorem beep (h : s.Willing) : s.beep.1 = none ∧ s.beep.2.Willing := by
  refine ⟨Speaker.head_answer_eq_none h.starts, ?_, h.stops⟩
  intro answer later
  exact h.starts answer (List.mem_of_mem_tail later)

theorem stop (h : s.Willing) : s.stop.1 = none ∧ s.stop.2.Willing := by
  refine ⟨Speaker.head_answer_eq_none h.stops, h.starts, ?_⟩
  intro answer later
  exact h.stops answer (List.mem_of_mem_tail later)

end Speaker.Willing

namespace Beeper

/-- The requests on record. -/
def calls (b : Beeper) : List SpeakerCall := b.speaker.calls.toList

/-- A new beeper in front of a speaker that will give these answers. -/
def fresh (beepAnswers stopAnswers : List SpeakerAnswer) : Beeper where
  speaker := { beepAnswers, stopAnswers }

/-- The beeper after operations in a row. -/
def after (b : Beeper) : List Op → Beeper
  | [] => b
  | op :: rest => (b.perform op).2.after rest

theorem after_append (b : Beeper) (earlier later : List Op) :
    b.after (earlier ++ later) = (b.after earlier).after later := by
  induction earlier generalizing b with
  | nil => rfl
  | cons op rest ih => exact ih (b.perform op).2

variable {b : Beeper}

theorem enable_of_on (on : b.active = true) : b.enable = (.ok (), b) := by
  rw [enable, if_pos on]

theorem enable_of_granted (off : b.active = false) (granted : b.speaker.beep.1 = none) :
    b.enable = (.ok (), ⟨b.speaker.beep.2, true⟩) := by
  rw [enable, off]
  generalize b.speaker.beep = asked at granted ⊢
  obtain ⟨answer, speaker⟩ := asked
  cases granted
  rfl

theorem enable_of_refused {text : String} (off : b.active = false)
    (refused : b.speaker.beep.1 = some text) :
    b.enable = (.error (.audio text), ⟨b.speaker.beep.2, false⟩) := by
  rw [enable, off]
  generalize b.speaker.beep = asked at refused ⊢
  obtain ⟨answer, speaker⟩ := asked
  cases refused
  rfl

theorem disable_of_off (off : b.active = false) : b.disable = (.ok (), b) := by
  rw [disable, off]
  rfl

theorem disable_of_granted (on : b.active = true) (granted : b.speaker.stop.1 = none) :
    b.disable = (.ok (), ⟨b.speaker.stop.2, false⟩) := by
  rw [disable, if_pos on]
  generalize b.speaker.stop = asked at granted ⊢
  obtain ⟨answer, speaker⟩ := asked
  cases granted
  rfl

theorem disable_of_refused {text : String} (on : b.active = true)
    (refused : b.speaker.stop.1 = some text) :
    b.disable = (.error (.audio text), ⟨b.speaker.stop.2, false⟩) := by
  rw [disable, if_pos on]
  generalize b.speaker.stop = asked at refused ⊢
  obtain ⟨answer, speaker⟩ := asked
  cases refused
  rfl

/-- A beeper that fails to start asked the speaker and was refused. -/
theorem enable_error_iff {failure : Failure} :
    b.enable.1 = .error failure
      ↔ ∃ text, failure = .audio text ∧ b.enable.2.calls = b.calls ++ [⟨.beep, some text⟩] := by
  have recorded := b.speaker.calls_beep
  cases active : b.active with
  | true =>
    rw [enable_of_on active]
    simp
  | false =>
    cases answer : b.speaker.beep.1 with
    | none =>
      rw [enable_of_granted active answer, calls, recorded, answer]
      simp [calls]
    | some text =>
      rw [enable_of_refused active answer, calls, recorded, answer]
      simp [calls, eq_comm]

theorem active_of_enable_error {failure : Failure} (failed : b.enable.1 = .error failure) :
    b.enable.2.active = false := by
  cases active : b.active with
  | true =>
    rw [enable_of_on active] at failed
    cases failed
  | false =>
    cases answer : b.speaker.beep.1 with
    | none =>
      rw [enable_of_granted active answer] at failed
      cases failed
    | some text => rw [enable_of_refused active answer]

/-- A beeper that fails to stop asked the speaker and was refused. -/
theorem disable_error_iff {failure : Failure} :
    b.disable.1 = .error failure
      ↔ ∃ text, failure = .audio text ∧ b.disable.2.calls = b.calls ++ [⟨.stop, some text⟩] := by
  have recorded := b.speaker.calls_stop
  cases active : b.active with
  | false =>
    rw [disable_of_off active]
    simp
  | true =>
    cases answer : b.speaker.stop.1 with
    | none =>
      rw [disable_of_granted active answer, calls, recorded, answer]
      simp [calls]
    | some text =>
      rw [disable_of_refused active answer, calls, recorded, answer]
      simp [calls, eq_comm]

/-- An operation goes on with the last block, or finishes it. -/
theorem inBlocks_perform (h : InBlocks b.active b.calls) (op : Op) :
    InBlocks (b.perform op).2.active (b.perform op).2.calls := by
  cases op with
  | enable =>
    have recorded := b.speaker.calls_beep
    rw [perform]
    cases active : b.active with
    | true =>
      rw [enable_of_on active]
      exact h
    | false =>
      rw [active] at h
      cases answer : b.speaker.beep.1 with
      | none =>
        rw [enable_of_granted active answer, calls, recorded, answer]
        exact h.started
      | some text =>
        rw [enable_of_refused active answer, calls, recorded, answer]
        exact h.refused text
  | disable =>
    have recorded := b.speaker.calls_stop
    rw [perform]
    cases active : b.active with
    | false =>
      rw [disable_of_off active]
      exact h
    | true =>
      rw [active] at h
      cases answer : b.speaker.stop.1 with
      | none =>
        rw [disable_of_granted active answer, calls, recorded, answer]
        exact h.stopped none
      | some text =>
        rw [disable_of_refused active answer, calls, recorded, answer]
        exact h.stopped (some text)

theorem inBlocks_after (h : InBlocks b.active b.calls) (ops : List Op) :
    InBlocks (b.after ops).active (b.after ops).calls := by
  induction ops generalizing b with
  | nil => exact h
  | cons op rest ih => exact ih (inBlocks_perform h op)

theorem inBlocks_fresh (beepAnswers stopAnswers : List SpeakerAnswer) :
    InBlocks (fresh beepAnswers stopAnswers).active (fresh beepAnswers stopAnswers).calls :=
  InBlocks.empty

/-! ## Speakers that never refuse -/

theorem enable_of_willing (willing : b.speaker.Willing) :
    ∃ speaker, b.enable = (.ok (), ⟨speaker, true⟩) ∧ speaker.Willing := by
  cases active : b.active with
  | true => exact ⟨b.speaker, by rw [enable_of_on active, ← active], willing⟩
  | false => exact ⟨_, enable_of_granted active willing.beep.1, willing.beep.2⟩

theorem disable_of_willing (willing : b.speaker.Willing) :
    ∃ speaker, b.disable = (.ok (), ⟨speaker, false⟩) ∧ speaker.Willing := by
  cases active : b.active with
  | false => exact ⟨b.speaker, by rw [disable_of_off active, ← active], willing⟩
  | true => exact ⟨_, disable_of_granted active willing.stop.1, willing.stop.2⟩

/-! ## Speakers that never refuse to stop -/

/-- The speaker will grant every request to stop, and has granted all so far. -/
structure Obedient (b : Beeper) : Prop where
  willing : ∀ answer ∈ b.speaker.stopAnswers, answer = none
  granted : refusedStops b.calls = 0

theorem Obedient.perform (h : b.Obedient) (op : Op) : (b.perform op).2.Obedient := by
  cases op with
  | enable =>
    have recorded := b.speaker.calls_beep
    have started : Obedient ⟨b.speaker.beep.2, true⟩ := by
      refine ⟨h.willing, ?_⟩
      rw [calls, recorded, refusedStops_append]
      exact h.granted
    rw [Beeper.perform]
    cases active : b.active with
    | true =>
      rw [enable_of_on active]
      exact h
    | false =>
      cases answer : b.speaker.beep.1 with
      | none =>
        rw [enable_of_granted active answer]
        exact started
      | some text =>
        rw [enable_of_refused active answer]
        exact ⟨started.willing, started.granted⟩
  | disable =>
    have recorded := b.speaker.calls_stop
    have answer : b.speaker.stop.1 = none := Speaker.head_answer_eq_none h.willing
    rw [Beeper.perform]
    cases active : b.active with
    | false =>
      rw [disable_of_off active]
      exact h
    | true =>
      rw [disable_of_granted active answer]
      refine ⟨?_, ?_⟩
      · intro later listed
        exact h.willing later (List.mem_of_mem_tail listed)
      · rw [calls, recorded, answer, refusedStops_append]
        exact h.granted

theorem Obedient.after (h : b.Obedient) (ops : List Op) : (b.after ops).Obedient := by
  induction ops generalizing b with
  | nil => exact h
  | cons op rest ih => exact ih (h.perform op)

/-! ## The account -/

/-- **What became of every tone.**  Take a new beeper after any operations, and
whatever the speaker answers.  One tone goes on if the switch is on, and one more
for each request to stop that was refused.  The record is in blocks.  Turning
the tone on or off fails exactly if the speaker is asked and refuses, and the
switch is off then.  Once the beeper is put away every tone was to stop, once.
If the speaker never refuses to stop there is at most one tone, and turning it
off leaves none. -/
theorem tone_account {beepAnswers stopAnswers : List SpeakerAnswer} {ops : List Op} {b : Beeper}
    (used : b = (fresh beepAnswers stopAnswers).after ops) :
    b.speaker.live = (if b.active then 1 else 0) + refusedStops b.calls
      ∧ InBlocks b.active b.calls
      ∧ (∀ failure, b.enable.1 = .error failure
        ↔ ∃ text, failure = .audio text ∧ b.enable.2.calls = b.calls ++ [⟨.beep, some text⟩])
      ∧ (∀ failure, b.enable.1 = .error failure → b.enable.2.active = false)
      ∧ (∀ failure, b.disable.1 = .error failure
        ↔ ∃ text, failure = .audio text ∧ b.disable.2.calls = b.calls ++ [⟨.stop, some text⟩])
      ∧ b.disable.2.active = false
      ∧ (b.close.speaker.live = refusedStops b.close.calls ∧ InBlocks false b.close.calls
        ∧ EachStoppedOnce b.close.calls)
      ∧ ((∀ answer ∈ stopAnswers, answer = none) →
        b.speaker.live ≤ 1 ∧ b.disable.2.speaker.live = 0) := by
  have blocks : InBlocks b.active b.calls := by
    rw [used]
    exact inBlocks_after (inBlocks_fresh beepAnswers stopAnswers) ops
  have closed : InBlocks false b.disable.2.calls := by
    have finished := inBlocks_perform blocks .disable
    rwa [perform, active_disable] at finished
  have live := blocks.balance_eq
  have left : b.disable.2.speaker.live = refusedStops b.disable.2.calls := by
    have := closed.balance_eq
    rw [if_neg Bool.false_ne_true, Int.zero_add] at this
    exact this
  refine ⟨live, blocks, fun failure => enable_error_iff, fun failure => active_of_enable_error,
    fun failure => disable_error_iff, b.active_disable, ⟨left, closed, closed.eachStoppedOnce⟩, ?_⟩
  intro willing
  have obedient : b.Obedient := by
    rw [used]
    exact Obedient.after ⟨willing, rfl⟩ ops
  constructor
  · show balance b.calls ≤ 1
    rw [live, obedient.granted]
    cases b.active with
    | false => decide
    | true => decide
  · have granted : refusedStops b.disable.2.calls = 0 := (obedient.perform .disable).granted
    rw [left, granted]
    rfl

/-- A tone whose end was refused goes on beside the next.  A speaker that
only refuses to start leaves no tone behind. -/
theorem tone_account_stuck :
    ((fresh [] [some "stuck"]).after [.enable, .disable, .enable]).speaker.live = 2
      ∧ ((fresh [some "busy"] []).after [.enable, .enable, .enable]).disable.2.speaker.live = 0 := by
  constructor
  · rw [(tone_account rfl).1]
    decide
  · exact ((tone_account rfl).2.2.2.2.2.2.2 (by simp)).2

end Beeper

end Chip8Console
