import Chip8Console.Proofs.Frames
import Chip8Console.Proofs.Scripted
import Chip8Console.Proofs.Sessions

/-!
# Refusals and failures

A core is not told if the speaker refuses.  The refusal is parked, and taken
when the core's call has returned, unless the core gave up itself.  So there are
two ways for a visit to fail, and `Visit.failure?` puts them in order.

* `Devices.Heard`: from one state of the devices to another the speaker was asked
  something, and the first refusal was parked if there was room.
* `Machine.failure_enter`, `Machine.fault_enter`, `Machine.calls_enter`: what
  entering a core answers, leaves parked, and leaves on record.
* `Machine.walk_unparked`: a walk from devices with nothing parked fails with the
  failure of its last visit, and no earlier visit fails.
* `Console.refresh_failure`: the main statement.
-/

namespace Chip8Console

universe u

/-! ## Requests on record -/

/-- The text of the first request that was refused. -/
def refusal? (requests : List SpeakerCall) : Option String :=
  requests.findSome? SpeakerCall.answer

/-- The failure of an outcome. -/
def failureOf {α : Type} : Except Failure α → Option Failure
  | .ok _ => none
  | .error failure => some failure

theorem failureOf_eq_some {α : Type} {outcome : Except Failure α} {failure : Failure} :
    failureOf outcome = some failure ↔ outcome = .error failure := by
  cases outcome <;> simp [failureOf]

/-- An operation without a failure succeeded. -/
theorem eq_ok_of_failureOf {β : Type u} {done : Except Failure Unit × β}
    (unfailed : failureOf done.1 = none) : done = (.ok (), done.2) := by
  obtain ⟨outcome, rest⟩ := done
  cases outcome with
  | ok value => rfl
  | error failure => cases unfailed

theorem refusal_append (earlier later : List SpeakerCall) :
    refusal? (earlier ++ later) = (refusal? earlier).or (refusal? later) :=
  List.findSome?_append

theorem refusal_eq_none {requests : List SpeakerCall} :
    refusal? requests = none ↔ ∀ call ∈ requests, call.answer = none :=
  List.findSome?_eq_none_iff

namespace Speaker

theorem calls_beep (s : Speaker) :
    s.beep.2.calls.toList = s.calls.toList ++ [⟨.beep, s.beep.1⟩] :=
  Array.toList_push

theorem calls_stop (s : Speaker) :
    s.stop.2.calls.toList = s.calls.toList ++ [⟨.stop, s.stop.1⟩] :=
  Array.toList_push

end Speaker

namespace Beeper

/-- Turning the tone on asks the speaker at most once, and fails if refused. -/
theorem enable_requests (b : Beeper) :
    ∃ requests, b.enable.2.speaker.calls.toList = b.speaker.calls.toList ++ requests
      ∧ failureOf b.enable.1 = (refusal? requests).map Failure.audio := by
  have recorded := b.speaker.calls_beep
  unfold enable
  generalize b.speaker.beep = asked at recorded ⊢
  obtain ⟨answer, speaker⟩ := asked
  split
  · exact ⟨[], (List.append_nil _).symm, rfl⟩
  · refine ⟨[⟨.beep, answer⟩], ?_⟩
    cases answer with
    | none => exact ⟨recorded, rfl⟩
    | some text => exact ⟨recorded, rfl⟩

theorem disable_requests (b : Beeper) :
    ∃ requests, b.disable.2.speaker.calls.toList = b.speaker.calls.toList ++ requests
      ∧ failureOf b.disable.1 = (refusal? requests).map Failure.audio := by
  have recorded := b.speaker.calls_stop
  unfold disable
  generalize b.speaker.stop = asked at recorded ⊢
  obtain ⟨answer, speaker⟩ := asked
  split
  · refine ⟨[⟨.stop, answer⟩], ?_⟩
    cases answer with
    | none => exact ⟨recorded, rfl⟩
    | some text => exact ⟨recorded, rfl⟩
  · exact ⟨[], (List.append_nil _).symm, rfl⟩

end Beeper

namespace Devices

/-- The requests on record. -/
def calls (d : Devices) : List SpeakerCall := d.beeper.speaker.calls.toList

/-- What is new on the record is what was added to it. -/
theorem requestsSince_of_calls {before after : Devices} {requests : List SpeakerCall}
    (recorded : after.calls = before.calls ++ requests) :
    after.requestsSince before = requests := by
  unfold calls at recorded
  rw [requestsSince, recorded, ← Array.length_toList, List.drop_left]

/-- Between two states the speaker was asked some requests, and the first
refusal was parked unless something was parked already. -/
structure Heard (before : Devices) (requests : List SpeakerCall) (after : Devices) : Prop where
  /-- The requests were recorded. -/
  recorded : after.calls = before.calls ++ requests
  /-- What is parked comes first. -/
  parked : after.fault = before.fault.or ((refusal? requests).map Failure.audio)

theorem Heard.of_same {before after : Devices} (beeper : after.beeper = before.beeper)
    (fault : after.fault = before.fault) : before.Heard [] after where
  recorded := by rw [calls, calls, beeper, List.append_nil]
  parked := by rw [fault]; exact (Option.or_none).symm

theorem Heard.trans {d₁ d₂ d₃ : Devices} {earlier later : List SpeakerCall}
    (h₁ : d₁.Heard earlier d₂) (h₂ : d₂.Heard later d₃) : d₁.Heard (earlier ++ later) d₃ where
  recorded := by rw [h₂.recorded, h₁.recorded, List.append_assoc]
  parked := by
    rw [h₂.parked, h₁.parked, refusal_append, Option.or_assoc]
    cases refusal? earlier <;> rfl

theorem Heard.requestsSince {before after : Devices} {requests : List SpeakerCall}
    (h : before.Heard requests after) : after.requestsSince before = requests :=
  requestsSince_of_calls h.recorded

/-- A beeper that was asked, with its outcome parked. -/
theorem heard_parkError (d : Devices) {b : Beeper} {outcome : Except Failure Unit}
    {requests : List SpeakerCall}
    (recorded : b.speaker.calls.toList = d.beeper.speaker.calls.toList ++ requests)
    (refused : failureOf outcome = (refusal? requests).map Failure.audio) :
    d.Heard requests ((d.withBeeper b).parkError outcome) where
  recorded := by rw [calls, calls, beeper_parkError, beeper_withBeeper, recorded]
  parked := by
    rw [fault_parkError, fault_withBeeper, ← refused]
    cases outcome <;> rfl

/-- A call parks the refusal that it meets. -/
theorem heard_answer (d : Devices) (c : DeviceCall) :
    ∃ requests, d.Heard requests (d.answer c).2 := by
  cases c with
  | randomByte =>
    rw [answer_randomByte]
    exact ⟨[], .of_same rfl rfl⟩
  | enableSound =>
    obtain ⟨requests, recorded, refused⟩ := d.beeper.enable_requests
    exact ⟨requests, d.heard_parkError recorded refused⟩
  | disableSound =>
    obtain ⟨requests, recorded, refused⟩ := d.beeper.disable_requests
    exact ⟨requests, d.heard_parkError recorded refused⟩
  | debugByte value => exact ⟨[], .of_same (beeper_diagnose _ _) (fault_diagnose _ _)⟩
  | debugWord value => exact ⟨[], .of_same (beeper_diagnose _ _) (fault_diagnose _ _)⟩
  | _ => exact ⟨[], .of_same rfl rfl⟩

end Devices

/-- So does a routine, at the first of its refusals. -/
theorem Routine.heard_run {α : Type u} (routine : Routine α) (d : Devices) :
    ∃ requests, d.Heard requests (routine.run d).2 := by
  refine Routine.across_run (R := fun d e => ∃ requests, d.Heard requests e) ?_ ?_
    Devices.heard_answer routine d
  · intro d
    exact ⟨[], .of_same rfl rfl⟩
  · rintro d e f ⟨earlier, h₁⟩ ⟨later, h₂⟩
    exact ⟨earlier ++ later, h₁.trans h₂⟩

/-! ## Visits that fail -/

namespace Visit

/-- How a visit fails if so much was parked before.  The core's own fault comes
first, then what was parked, then the first refusal. -/
def failure? (v : Visit) (parked : Option Failure) : Option Failure :=
  match v.result with
  | .error fault => some (.core fault)
  | .ok _ => parked.or ((refusal? v.requests).map Failure.audio)

/-- What is parked after a visit.  Nobody looks for it if the core gave up. -/
def parks (v : Visit) (parked : Option Failure) : Option Failure :=
  match v.result with
  | .error _ => parked.or ((refusal? v.requests).map Failure.audio)
  | .ok _ => none

/-- A visit does not fail if the core does not and the speaker never refuses. -/
theorem failure?_eq_none {v : Visit} :
    v.failure? none = none
      ↔ (∃ stop, v.result = .ok stop) ∧ ∀ call ∈ v.requests, call.answer = none := by
  unfold failure?
  cases v.result with
  | error fault => simp
  | ok stop => simp [refusal_eq_none]

theorem failure?_eq_some {v : Visit} {failure : Failure} :
    v.failure? none = some failure
      ↔ (∃ fault, v.result = .error fault ∧ failure = .core fault)
        ∨ ∃ stop text, v.result = .ok stop ∧ refusal? v.requests = some text
          ∧ failure = .audio text := by
  unfold failure?
  cases v.result with
  | error fault => simp [eq_comm]
  | ok stop => simp [eq_comm]

end Visit

namespace Machine

variable {σ : Type u} [Interpreter σ]

theorem heard_visit (m : Machine σ) (entry : Entry) :
    m.devices.Heard (m.visit entry).requests ((entry.point m.core).run m.devices).2 := by
  obtain ⟨requests, h⟩ := (entry.point m.core).heard_run m.devices
  have same : (m.visit entry).requests = requests := h.requestsSince
  rwa [same]

theorem failure_enter (m : Machine σ) (entry : Entry) :
    failureOf (m.enter entry.point).1 = (m.visit entry).failure? m.devices.fault := by
  rw [Visit.failure?, ← (m.heard_visit entry).parked]
  cases ended : (m.visit entry).result with
  | error fault => rw [enter_of_error ended, failureOf]
  | ok stop =>
    rw [enter_of_ok ended]
    cases ((entry.point m.core).run m.devices).2.fault <;> rfl

theorem fault_enter (m : Machine σ) (entry : Entry) :
    (m.enter entry.point).2.devices.fault = (m.visit entry).parks m.devices.fault := by
  rw [Visit.parks, ← (m.heard_visit entry).parked]
  cases ended : (m.visit entry).result with
  | error fault => rw [enter_of_error ended]
  | ok stop => rw [enter_of_ok ended]

theorem calls_enter (m : Machine σ) (entry : Entry) :
    (m.enter entry.point).2.devices.calls = m.devices.calls ++ (m.visit entry).requests := by
  rw [← (m.heard_visit entry).recorded]
  cases ended : (m.visit entry).result with
  | error fault => rw [enter_of_error ended]
  | ok stop => rw [enter_of_ok ended]; rfl

/-! ## Walks that fail -/

theorem fault_walk (m : Machine σ) (entries : List Entry) :
    (m.walk entries).last.devices.fault
      = (m.walk entries).visits.foldl (fun parked v => v.parks parked) m.devices.fault := by
  induction entries generalizing m with
  | nil => rfl
  | cons entry rest ih =>
    have left := m.fault_enter entry
    rcases m.walk_cons entry rest with ⟨next, entered, onward⟩ | ended
    · rw [entered] at left
      rw [onward, List.foldl_cons, ← left]
      exact ih next
    · rw [ended]
      exact left

theorem calls_walk (m : Machine σ) (entries : List Entry) :
    (m.walk entries).last.devices.calls
      = m.devices.calls ++ (m.walk entries).visits.flatMap Visit.requests := by
  induction entries generalizing m with
  | nil => rw [walk_nil, List.flatMap_nil, List.append_nil]
  | cons entry rest ih =>
    have left := m.calls_enter entry
    rcases m.walk_cons entry rest with ⟨next, entered, onward⟩ | ended
    · rw [entered] at left
      rw [onward, List.flatMap_cons, ← List.append_assoc, ← left]
      exact ih next
    · rw [ended, List.flatMap_singleton]
      exact left

/-- A walk from devices with nothing parked fails if and when a visit does. -/
theorem walk_unparked {m : Machine σ} (unparked : m.devices.fault = none) (entries : List Entry) :
    (∃ stop, (m.walk entries).outcome = .ok stop ∧ (m.walk entries).last.devices.fault = none
        ∧ ∀ v ∈ (m.walk entries).visits, v.failure? none = none)
      ∨ ∃ failure earlier final, (m.walk entries).outcome = .error failure
          ∧ (m.walk entries).visits = earlier ++ [final]
          ∧ (∀ v ∈ earlier, v.failure? none = none) ∧ final.failure? none = some failure := by
  induction entries generalizing m with
  | nil => exact .inl ⟨false, rfl, unparked, by simp [walk_nil]⟩
  | cons entry rest ih =>
    have failed := m.failure_enter entry
    have left := m.fault_enter entry
    rcases entered : m.enter entry.point with ⟨outcome, next⟩
    rw [entered, unparked] at failed left
    cases outcome with
    | error failure =>
      rw [walk_failed _ entered]
      exact .inr ⟨failure, [], m.visit entry, rfl, rfl, by simp, failed.symm⟩
    | ok stop =>
      -- the core did not give up, so what it left parked was taken
      have clean : (m.visit entry).failure? none = none := failed.symm
      have taken : next.devices.fault = none := by
        rw [left, Visit.parks, result_visit entered]
      cases stop with
      | true =>
        rw [walk_stopped _ entered]
        exact .inl ⟨true, rfl, taken, by simpa using clean⟩
      | false =>
        rw [walk_onward _ entered]
        rcases ih taken with ⟨stop, ended, none_left, each⟩
          | ⟨failure, earlier, final, ended, split, each, last⟩
        · exact .inl ⟨stop, ended, none_left, List.forall_mem_cons.2 ⟨clean, each⟩⟩
        · exact .inr ⟨failure, m.visit entry :: earlier, final, ended, by rw [split]; rfl,
            List.forall_mem_cons.2 ⟨clean, each⟩, last⟩

end Machine

/-! ## Refreshes that fail -/

namespace Console

variable {σ : Type u} [Interpreter σ]

/-- The machine of a console whose session runs on a core. -/
def machine (c : Console σ) (core : Core σ) : Machine σ := ⟨core, c.devices⟩

theorem visits_of_running {c : Console σ} {core : Core σ} (running : c.session = .running core)
    (time : Binary64) :
    c.visits (.refresh time) = ((c.machine core).walk (c.pacer.schedule time)).visits := by
  simp only [visits, running]
  rfl

theorem refresh_of_not_running {c : Console σ} (off : c.isRunning = false) (time : Binary64) :
    c.refresh time = (.ok .stopped, c) ∧ c.visits (.refresh time) = [] := by
  rw [isRunning] at off
  cases session : c.session with
  | none => simp only [refresh, visits, session, and_self]
  | finished core => simp only [refresh, visits, session, and_self]
  | running core =>
    rw [session] at off
    cases off

/-- A running console answers what its pacer answers. -/
theorem answer_refresh {c : Console σ} {core : Core σ} (running : c.session = .running core)
    (time : Binary64) : (c.refresh time).1 = (c.pacer.refresh time (c.machine core)).1 := by
  rw [machine]
  simp only [refresh, running]
  rcases c.pacer.refresh time ⟨core, c.devices⟩ with ⟨answer, pacer, last⟩
  cases answer with
  | ok outcome => rfl
  | error failure => rfl

/-- A refresh that succeeds leaves the session to what the pacer made of it. -/
theorem refreshed_of_ok {c : Console σ} {core : Core σ} {time : Binary64}
    {outcome : RefreshOutcome} (running : c.session = .running core)
    (answered : (c.refresh time).1 = .ok outcome) :
    ∃ pacer last, c.pacer.Refreshed time (c.machine core) outcome pacer last
      ∧ (c.refresh time).2 = ⟨last.devices, pacer, .running last.core⟩ := by
  rcases done : c.pacer.refresh time (c.machine core) with ⟨answer, pacer, last⟩
  have step := done
  rw [machine] at step
  simp only [refresh, running, step] at answered ⊢
  cases answer with
  | error failure => cases answered
  | ok _ =>
    cases answered
    exact ⟨pacer, last, Pacer.refreshed_of_refresh done, rfl⟩

/-- A refresh whose walk does not fail succeeds, with what the walk left or
presented. -/
theorem refresh_eq_of_walk_ok {c : Console σ} {core : Core σ} {time : Binary64} {early : Bool}
    (running : c.session = .running core)
    (ended : ((c.machine core).walk (c.pacer.schedule time)).outcome = .ok early) :
    ∃ outcome pacer last, c.refresh time = (.ok outcome, ⟨last.devices, pacer, .running last.core⟩)
      ∧ (last = ((c.machine core).walk (c.pacer.schedule time)).last
        ∨ last = ((c.machine core).walk (c.pacer.schedule time)).last.present) := by
  obtain ⟨outcome, answered, left⟩ := Pacer.refresh_of_walk_ok ended
  rcases done : c.pacer.refresh time (c.machine core) with ⟨answer, pacer, last⟩
  rw [done] at answered left
  cases answered
  refine ⟨outcome, pacer, last, ?_, left⟩
  rw [machine] at done
  simp only [refresh, running, done]

/-- It changes at most the screen of the devices that the walk left. -/
theorem refresh_of_walk_ok {c : Console σ} {core : Core σ} {time : Binary64} {early : Bool}
    (running : c.session = .running core)
    (ended : ((c.machine core).walk (c.pacer.schedule time)).outcome = .ok early) :
    ∃ outcome screen, (c.refresh time).1 = .ok outcome
      ∧ (c.refresh time).2.devices
        = { ((c.machine core).walk (c.pacer.schedule time)).last.devices with screen } := by
  obtain ⟨outcome, pacer, last, step, left⟩ := refresh_eq_of_walk_ok running ended
  rw [step]
  rcases left with rfl | rfl
  · exact ⟨outcome, _, rfl, rfl⟩
  · exact ⟨outcome, _, rfl, rfl⟩

/-- It leaves the session to the core that the walk left. -/
theorem session_refresh_of_walk_ok {c : Console σ} {core : Core σ} {time : Binary64} {early : Bool}
    (running : c.session = .running core)
    (ended : ((c.machine core).walk (c.pacer.schedule time)).outcome = .ok early) :
    (c.refresh time).2.session
      = .running ((c.machine core).walk (c.pacer.schedule time)).last.core := by
  obtain ⟨outcome, pacer, last, step, left⟩ := refresh_eq_of_walk_ok running ended
  rw [step]
  rcases left with rfl | rfl
  · rfl
  · rfl

/-- A refresh whose walk fails fails with it, and the session with the core that
the walk left is stopped. -/
theorem refresh_eq_of_walk_error {c : Console σ} {core : Core σ} {time : Binary64}
    {failure : Failure} (running : c.session = .running core)
    (ended : ((c.machine core).walk (c.pacer.schedule time)).outcome = .error failure) :
    ∃ rest : Console σ, ∃ said entries,
      rest.devices = ((c.machine core).walk (c.pacer.schedule time)).last.devices.report said
        ∧ rest.session = .running ((c.machine core).walk (c.pacer.schedule time)).last.core
        ∧ c.refresh time = (.error failure, rest.stop.2.report entries) := by
  have failed := Pacer.refresh_of_walk_error ended
  simp only [refresh, running]
  rw [machine] at failed
  rw [failed]
  obtain ⟨entries, same⟩ := shutDown_eq
    (report ⟨((c.machine core).walk (c.pacer.schedule time)).last.devices,
        { c.pacer with lastTime := some time },
        .running ((c.machine core).walk (c.pacer.schedule time)).last.core⟩
      [⟨.error, s!"session terminated: {failure.message}"⟩])
  exact ⟨_, _, entries, rfl, rfl, congrArg (Prod.mk _) same⟩

theorem refresh_of_walk_error {c : Console σ} {core : Core σ} {time : Binary64}
    {failure : Failure} (running : c.session = .running core)
    (ended : ((c.machine core).walk (c.pacer.schedule time)).outcome = .error failure) :
    ∃ rest : Console σ, ∃ said entries,
      rest.devices = ((c.machine core).walk (c.pacer.schedule time)).last.devices.report said
        ∧ c.refresh time = (.error failure, rest.stop.2.report entries) := by
  obtain ⟨rest, said, entries, devices, _, step⟩ := refresh_eq_of_walk_error running ended
  exact ⟨rest, said, entries, devices, step⟩

omit [Interpreter σ] in
theorem calls_stop (c : Console σ) :
    ∃ cleanUp, c.stop.2.devices.calls = c.devices.calls ++ cleanUp := by
  obtain ⟨cleanUp, recorded, _⟩ := c.devices.beeper.disable_requests
  exact ⟨cleanUp, by rw [Devices.calls, beeper_stop, recorded]; rfl⟩

theorem calls_refresh_of_ok {c : Console σ} {core : Core σ} {time : Binary64} {early : Bool}
    (running : c.session = .running core)
    (ended : ((c.machine core).walk (c.pacer.schedule time)).outcome = .ok early) :
    (c.refresh time).2.devices.calls
      = c.devices.calls
        ++ ((c.machine core).walk (c.pacer.schedule time)).visits.flatMap Visit.requests := by
  obtain ⟨outcome, screen, _, left⟩ := refresh_of_walk_ok running ended
  rw [left]
  exact (c.machine core).calls_walk (c.pacer.schedule time)

theorem calls_refresh_of_error {c : Console σ} {core : Core σ} {time : Binary64}
    {failure : Failure} (running : c.session = .running core)
    (ended : ((c.machine core).walk (c.pacer.schedule time)).outcome = .error failure) :
    ∃ cleanUp, (c.refresh time).2.devices.calls
      = c.devices.calls
        ++ (((c.machine core).walk (c.pacer.schedule time)).visits.flatMap Visit.requests
          ++ cleanUp) := by
  obtain ⟨rest, said, entries, devices, step⟩ := refresh_of_walk_error running ended
  obtain ⟨cleanUp, cleaned⟩ := rest.calls_stop
  refine ⟨cleanUp, ?_⟩
  rw [step, ← List.append_assoc]
  refine cleaned.trans ?_
  rw [devices]
  exact congrArg (· ++ cleanUp) ((c.machine core).calls_walk (c.pacer.schedule time))

/-- A walk does not fail if no core gives up and every request of the refresh is
granted. -/
theorem walk_ok_of_granted {c : Console σ} {core : Core σ} {time : Binary64}
    (running : c.session = .running core) (unparked : c.devices.fault = none)
    (results : ∀ v ∈ c.visits (.refresh time), ∃ stop, v.result = .ok stop)
    (granted : ∀ call ∈ (c.refresh time).2.devices.requestsSince c.devices, call.answer = none) :
    ∃ early, ((c.machine core).walk (c.pacer.schedule time)).outcome = .ok early := by
  rw [visits_of_running running] at results
  rcases (c.machine core).walk_unparked unparked (c.pacer.schedule time) with
    ⟨early, ended, _, _⟩ | ⟨failure, earlier, final, ended, split, _, last⟩
  · exact ⟨early, ended⟩
  · obtain ⟨cleanUp, recorded⟩ := calls_refresh_of_error running ended
    rw [Devices.requestsSince_of_calls recorded] at granted
    have visited : final ∈ ((c.machine core).walk (c.pacer.schedule time)).visits := by
      rw [split]
      exact List.mem_append_right _ (List.mem_singleton.2 rfl)
    have clean : final.failure? none = none := by
      refine Visit.failure?_eq_none.2 ⟨results final visited, ?_⟩
      intro call asked
      exact granted call
        (List.mem_append_left _ (List.mem_flatMap.2 ⟨final, visited, asked⟩))
    rw [clean] at last
    cases last

/-- **No failure is swallowed and none is invented.**  Take a refresh of a
running session with nothing parked.  The requests that the speaker gets are
those of the visits, and after a failure those of the clean-up.  The refresh
succeeds exactly if no core gave up and no request was refused.  If it fails, it
fails as the last visit did, and no visit before did.  That is the core's own
fault, or else the first refusal in that visit.  Nothing is presented then. -/
theorem refresh_failure {c : Console σ} {core : Core σ} (running : c.session = .running core)
    (unparked : c.devices.fault = none) (time : Binary64) :
    (∃ cleanUp, (c.refresh time).2.devices.requestsSince c.devices
        = (c.visits (.refresh time)).flatMap Visit.requests ++ cleanUp)
      ∧ ((∃ outcome, (c.refresh time).1 = .ok outcome)
        ↔ (∀ v ∈ c.visits (.refresh time), ∃ stop, v.result = .ok stop)
          ∧ ∀ call ∈ (c.refresh time).2.devices.requestsSince c.devices, call.answer = none)
      ∧ ∀ failure, (c.refresh time).1 = .error failure →
        (∃ earlier final, c.visits (.refresh time) = earlier ++ [final]
          ∧ (∀ v ∈ earlier, (∃ stop, v.result = .ok stop) ∧ ∀ call ∈ v.requests, call.answer = none)
          ∧ ((∃ fault, final.result = .error fault ∧ failure = .core fault)
            ∨ ∃ stop text, final.result = .ok stop ∧ refusal? final.requests = some text
              ∧ failure = .audio text))
        ∧ (c.refresh time).2.devices.screen.front = c.devices.screen.front := by
  rw [visits_of_running running]
  have front := (c.machine core).front_walk (c.pacer.schedule time)
  rcases (c.machine core).walk_unparked unparked (c.pacer.schedule time) with
    ⟨stop, ended, _, each⟩ | ⟨failure, earlier, final, ended, split, each, last⟩
  · -- the walk went well, and nobody asked the speaker after it
    obtain ⟨outcome, _, answered, _⟩ := refresh_of_walk_ok running ended
    have requests := Devices.requestsSince_of_calls (calls_refresh_of_ok running ended)
    refine ⟨⟨[], by rw [requests, List.append_nil]⟩, ?_, ?_⟩
    · refine iff_of_true ⟨outcome, answered⟩ ⟨?_, ?_⟩
      · intro v member
        exact (Visit.failure?_eq_none.1 (each v member)).1
      · intro call member
        rw [requests] at member
        obtain ⟨v, visited, asked⟩ := List.mem_flatMap.1 member
        exact (Visit.failure?_eq_none.1 (each v visited)).2 call asked
    · intro failure failed
      rw [answered] at failed
      cases failed
  · -- the last visit failed, and the session was stopped
    obtain ⟨rest, said, entries, devices, step⟩ := refresh_of_walk_error running ended
    obtain ⟨cleanUp, recorded⟩ := calls_refresh_of_error running ended
    have requests := Devices.requestsSince_of_calls recorded
    have presented : (c.refresh time).2.devices.screen.front = c.devices.screen.front := by
      rw [step]
      refine Eq.trans ?_ front
      show rest.stop.2.devices.screen.front = _
      rw [screen_stop, devices, Devices.screen_report]
    refine ⟨⟨cleanUp, requests⟩, ?_, ?_⟩
    · refine iff_of_false ?_ ?_
      · rintro ⟨outcome, answered⟩
        rw [step] at answered
        cases answered
      · rintro ⟨results, granted⟩
        rw [← visits_of_running running] at results
        obtain ⟨early, well⟩ := walk_ok_of_granted running unparked results granted
        rw [ended] at well
        cases well
    · intro failure' failed
      rw [step] at failed
      cases failed
      refine ⟨⟨earlier, final, split, ?_, Visit.failure?_eq_some.1 last⟩, presented⟩
      intro v member
      exact Visit.failure?_eq_none.1 (each v member)

/-- The first cycle meets a speaker that refuses. -/
theorem refresh_failure_refused :
    ((Scripted.console { beepAnswers := [some "no speaker"] }
        [.call .enableSound fun _ => .done (.ok false)]).refresh (Binary64.ofInt 16)).1
      = .error (.audio "no speaker")
    ∧ ((Scripted.console { beepAnswers := [some "no speaker"] }
        [.call .enableSound fun _ => .done (.ok false)]).refresh
          (Binary64.ofInt 16)).2.devices.screen.front = Plane.blank := by
  have failed : ((Scripted.console { beepAnswers := [some "no speaker"] }
      [.call .enableSound fun _ => .done (.ok false)]).refresh (Binary64.ofInt 16)).1
        = .error (.audio "no speaker") := failureOf_eq_some.1 (by decide +kernel)
  exact ⟨failed, ((refresh_failure rfl rfl _).2.2 _ failed).2⟩

end Console

end Chip8Console
