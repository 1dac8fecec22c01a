import Chip8Console.Proofs.Runs

/-!
# What stays parked

A parked fault is taken after the next call of a core that does not give up.
Nothing else takes it unasked.  So a refusal stays parked if the core gave up in
the same call, or if the request was made between the calls of cores.  Neither
the end of a session nor the next load takes it, and it ends the next session at
its first frame.

* `FaultEvent`: what a run does to the parked fault.
* `Console.fault_after`: the parked fault after a run is read off its events.
* `Console.parked_iff`: something is parked exactly if something was refused
  that nobody has taken since.
* `Console.clean_refresh_fails_iff`: when a refresh fails although nothing has
  gone wrong since the load.
* `Console.fault_crosses_load`: that happens.
-/

namespace Chip8Console

universe u

/-! ## Events -/

/-- Something that may park or take a fault. -/
inductive FaultEvent where
  /-- A call of a core. -/
  | visit (v : Visit)
  /-- Requests that were made outside of a call of a core, as a core makes them. -/
  | asked (requests : List SpeakerCall)
  /-- Someone took what was parked. -/
  | collected

namespace FaultEvent

/-- What is parked is gone after the event. -/
def takes : FaultEvent → Bool
  | .visit v => v.result.isOk
  | .asked _ => false
  | .collected => true

/-- The first refusal in the event. -/
def refused : FaultEvent → Option String
  | .visit v => refusal? v.requests
  | .asked requests => refusal? requests
  | .collected => none

/-- What is parked after the event. -/
def parks (e : FaultEvent) (parked : Option Failure) : Option Failure :=
  if e.takes then none else parked.or (e.refused.map Failure.audio)

/-- What is parked after events in a row. -/
def parksAll (events : List FaultEvent) (parked : Option Failure) : Option Failure :=
  events.foldl (fun parked e => e.parks parked) parked

theorem parks_visit (v : Visit) (parked : Option Failure) :
    (FaultEvent.visit v).parks parked = v.parks parked := by
  rw [parks, takes, refused, Visit.parks]
  cases v.result with
  | error fault => rfl
  | ok stop => rfl

theorem parksAll_append (earlier later : List FaultEvent) (parked : Option Failure) :
    parksAll (earlier ++ later) parked = parksAll later (parksAll earlier parked) :=
  List.foldl_append

theorem parksAll_visits (visits : List Visit) (parked : Option Failure) :
    parksAll (visits.map .visit) parked = visits.foldl (fun parked v => v.parks parked) parked := by
  rw [parksAll, List.foldl_map]
  simp only [parks_visit]

theorem parks_ne_none {e : FaultEvent} {parked : Option Failure} :
    e.parks parked ≠ none ↔ e.takes = false ∧ (parked ≠ none ∨ e.refused ≠ none) := by
  unfold parks
  cases e.takes with
  | true => simp
  | false => cases parked <;> simp

/-- Something is parked exactly if it was parked before, or refused in an event,
and nothing took it from there on. -/
theorem parksAll_ne_none {events : List FaultEvent} {parked : Option Failure} :
    parksAll events parked ≠ none
      ↔ (parked ≠ none ∧ ∀ e ∈ events, e.takes = false)
        ∨ ∃ earlier e later, events = earlier ++ e :: later ∧ e.refused ≠ none
          ∧ ∀ x ∈ e :: later, x.takes = false := by
  induction events generalizing parked with
  | nil => simp [parksAll]
  | cons first rest ih =>
    rw [parksAll, List.foldl_cons, ← parksAll, ih, parks_ne_none]
    constructor
    · rintro (⟨⟨kept, before | refused⟩, untaken⟩ | ⟨earlier, e, later, rfl, refused, untaken⟩)
      · exact .inl ⟨before, List.forall_mem_cons.2 ⟨kept, untaken⟩⟩
      · exact .inr ⟨[], first, rest, rfl, refused, List.forall_mem_cons.2 ⟨kept, untaken⟩⟩
      · exact .inr ⟨first :: earlier, e, later, rfl, refused, untaken⟩
    · rintro (⟨before, untaken⟩ | ⟨earlier, e, later, split, refused, untaken⟩)
      · obtain ⟨kept, untaken⟩ := List.forall_mem_cons.1 untaken
        exact .inl ⟨⟨kept, .inl before⟩, untaken⟩
      · cases earlier with
        | nil =>
          cases split
          obtain ⟨kept, untaken⟩ := List.forall_mem_cons.1 untaken
          exact .inl ⟨⟨kept, .inr refused⟩, untaken⟩
        | cons other earlier =>
          cases split
          exact .inr ⟨earlier, e, later, rfl, refused, untaken⟩

end FaultEvent

namespace Console

variable {σ : Type u} [Interpreter σ]

/-- What an operation does to the parked fault. -/
def faultEvents (c : Console σ) : Op σ → List FaultEvent
  | .refresh time => (c.visits (.refresh time)).map .visit
  | .devices (.call call) => [.asked ((c.devices.answer call).2.requestsSince c.devices)]
  | .devices .collectFault => [.collected]
  | _ => []

/-- What operations in a row do to the parked fault. -/
def faultEventsOf (c : Console σ) : List (Op σ) → List FaultEvent
  | [] => []
  | op :: rest => c.faultEvents op ++ (c.perform op).2.faultEventsOf rest

/-- What is parked after operations in a row, going by their events. -/
def parkedBy (c : Console σ) (ops : List (Op σ)) : Option Failure :=
  FaultEvent.parksAll (c.faultEventsOf ops) c.devices.fault

omit [Interpreter σ] in
theorem fault_load (c : Console σ) (core : Core σ) (program : Bytes) :
    (c.load core program).2.devices.fault = c.devices.fault := by
  obtain ⟨screen, log, session, left⟩ := c.load_eq core program
  rw [left]
  exact c.fault_stop

theorem fault_refresh (c : Console σ) (time : Binary64) :
    (c.refresh time).2.devices.fault
      = (c.visits (.refresh time)).foldl (fun parked v => v.parks parked) c.devices.fault := by
  cases on : c.isRunning with
  | false =>
    obtain ⟨same, idle⟩ := refresh_of_not_running on time
    rw [same, idle, List.foldl_nil]
  | true =>
    obtain ⟨core, running⟩ := isRunning_iff.1 on
    rw [visits_of_running running]
    have left := (c.machine core).fault_walk (c.pacer.schedule time)
    cases ended : ((c.machine core).walk (c.pacer.schedule time)).outcome with
    | ok early =>
      obtain ⟨outcome, screen, _, devices⟩ := refresh_of_walk_ok running ended
      rw [devices]
      exact left
    | error failure =>
      obtain ⟨rest, said, entries, devices, step⟩ := refresh_of_walk_error running ended
      rw [step]
      refine (fault_stop rest).trans ?_
      rw [devices]
      exact left

theorem fault_perform (c : Console σ) (op : Op σ) :
    (c.perform op).2.devices.fault = FaultEvent.parksAll (c.faultEvents op) c.devices.fault := by
  cases op with
  | load core program => exact c.fault_load core program
  | loadFrom core source =>
    rw [perform, loadFrom]
    cases source.readAll with
    | error failure => rfl
    | ok program => exact c.fault_load core program
  | refresh time =>
    rw [faultEvents, FaultEvent.parksAll_visits]
    exact c.fault_refresh time
  | stop => exact c.fault_stop
  | devices op =>
    cases op with
    | call call =>
      obtain ⟨requests, heard⟩ := c.devices.heard_answer call
      rw [faultEvents, heard.requestsSince]
      exact heard.parked
    | silence => rfl
    | collectFault => rfl
    | keypad op => rfl
    | screen op => rfl

theorem fault_after (c : Console σ) (ops : List (Op σ)) :
    (c.after ops).devices.fault = c.parkedBy ops := by
  unfold parkedBy
  induction ops generalizing c with
  | nil => rfl
  | cons op rest ih =>
    rw [faultEventsOf, FaultEvent.parksAll_append, ← fault_perform]
    exact ih (c.perform op).2

/-- Something is parked after a run from a console with nothing parked exactly if
a request was refused and no core has come to a result since, in that call or
later, and nobody has collected the fault. -/
theorem parked_iff {c : Console σ} (unparked : c.devices.fault = none) (ops : List (Op σ)) :
    (c.after ops).devices.fault ≠ none
      ↔ ∃ earlier e later, c.faultEventsOf ops = earlier ++ e :: later ∧ e.refused ≠ none
        ∧ ∀ x ∈ e :: later, x.takes = false := by
  rw [fault_after, parkedBy, unparked, FaultEvent.parksAll_ne_none]
  simp

/-! ## Clean runs -/

theorem parks_of_results {visits : List Visit} (parked : Option Failure)
    (results : ∀ v ∈ visits, ∃ stop, v.result = .ok stop) (some_visit : visits ≠ []) :
    visits.foldl (fun parked v => v.parks parked) parked = none := by
  obtain ⟨earlier, final, rfl⟩ : ∃ earlier final, visits = earlier ++ [final] := by
    rcases List.eq_nil_or_concat visits with rfl | ⟨earlier, final, rfl⟩
    · exact absurd rfl some_visit
    · exact ⟨earlier, final, List.concat_eq_append⟩
  obtain ⟨stop, result⟩ := results final (List.mem_append_right _ (List.mem_singleton.2 rfl))
  rw [List.foldl_append, List.foldl_cons, List.foldl_nil, Visit.parks, result]

/-- A run takes what is parked if it is asked to, or enters a core. -/
def TakesFault (c : Console σ) (ops : List (Op σ)) : Prop :=
  .devices .collectFault ∈ ops ∨ c.visitsOf ops ≠ []

theorem takesFault_cons {c : Console σ} {op : Op σ} {rest : List (Op σ)} :
    c.TakesFault (op :: rest) ↔ c.TakesFault [op] ∨ (c.perform op).2.TakesFault rest := by
  simp only [TakesFault, visitsOf, List.mem_cons, List.not_mem_nil, or_false, List.append_nil,
    ne_eq, List.append_eq_nil_iff]
  grind

/-- An operation of a clean run takes what is parked, or leaves it and parks
nothing. -/
theorem fault_perform_of_clean {c : Console σ} {op : Op σ} (clean : c.Clean [op]) :
    (c.TakesFault [op] → (c.perform op).2.devices.fault = none)
      ∧ (¬ c.TakesFault [op] → (c.perform op).2.devices.fault = c.devices.fault) := by
  have left := c.fault_perform op
  cases op with
  | refresh time =>
    have results := clean.results
    simp only [visitsOf, List.append_nil] at results
    rw [faultEvents, FaultEvent.parksAll_visits] at left
    constructor
    · intro takes
      have entered : c.visits (.refresh time) ≠ [] := by
        simpa [TakesFault, visitsOf] using takes
      exact left.trans (parks_of_results _ results entered)
    · intro quiet
      have idle : c.visits (.refresh time) = [] := by
        simpa [TakesFault, visitsOf] using quiet
      rw [idle] at left
      exact left
  | devices op =>
    cases op with
    | collectFault => exact ⟨fun _ => rfl, fun quiet => absurd (.inl (by simp)) quiet⟩
    | call call =>
      obtain ⟨requests, heard⟩ := c.devices.heard_answer call
      have granted : refusal? requests = none := by
        rw [refusal_eq_none, ← heard.requestsSince]
        exact clean.granted
      have kept : (c.devices.answer call).2.fault = c.devices.fault := by
        rw [heard.parked, granted]
        exact Option.or_none
      exact ⟨by simp [TakesFault, visitsOf, visits], fun _ => kept⟩
    | silence => exact ⟨by simp [TakesFault, visitsOf, visits], fun _ => left⟩
    | keypad op => exact ⟨by simp [TakesFault, visitsOf, visits], fun _ => left⟩
    | screen op => exact ⟨by simp [TakesFault, visitsOf, visits], fun _ => left⟩
  | load core program => exact ⟨by simp [TakesFault, visitsOf, visits], fun _ => left⟩
  | loadFrom core source => exact ⟨by simp [TakesFault, visitsOf, visits], fun _ => left⟩
  | stop => exact ⟨by simp [TakesFault, visitsOf, visits], fun _ => left⟩

theorem fault_after_of_clean {c : Console σ} {ops : List (Op σ)} (clean : c.Clean ops) :
    (c.TakesFault ops → (c.after ops).devices.fault = none)
      ∧ (¬ c.TakesFault ops → (c.after ops).devices.fault = c.devices.fault) := by
  induction ops generalizing c with
  | nil => exact ⟨by simp [TakesFault, visitsOf], fun _ => rfl⟩
  | cons op rest ih =>
    have whole : c.Clean ([op] ++ rest) := clean
    obtain ⟨taken, kept⟩ := fault_perform_of_clean whole.split.1
    obtain ⟨takenLater, keptLater⟩ := ih whole.split.2
    rw [takesFault_cons]
    constructor
    · intro takes
      by_cases later : (c.perform op).2.TakesFault rest
      · exact takenLater later
      · exact (keptLater later).trans (taken (takes.resolve_right later))
    · intro quiet
      obtain ⟨now, later⟩ := not_or.1 quiet
      exact (keptLater later).trans (kept now)

end Console

namespace Machine

variable {σ : Type u} [Interpreter σ]

/-- A walk whose first visit comes to a result meets what was parked before. -/
theorem walk_parked {m : Machine σ} {entries : List Entry} {failure : Failure}
    (parked : m.devices.fault = some failure) (some_visit : (m.walk entries).visits ≠ [])
    (results : ∀ v ∈ (m.walk entries).visits, ∃ stop, v.result = .ok stop) :
    (m.walk entries).outcome = .error failure := by
  cases entries with
  | nil => exact absurd rfl some_visit
  | cons entry rest =>
    obtain ⟨later, visits⟩ := m.visits_walk_cons entry rest
    have first : m.visit entry ∈ (m.walk (entry :: rest)).visits := by
      rw [visits]
      exact List.mem_cons_self
    obtain ⟨stop, result⟩ := results _ first
    have failed := m.failure_enter entry
    rw [Visit.failure?, result, parked, Option.some_or, failureOf_eq_some] at failed
    rcases entered : m.enter entry.point with ⟨outcome, next⟩
    rw [entered] at failed
    cases failed
    rw [walk_failed _ entered]

end Machine

namespace Console

variable {σ : Type u} [Interpreter σ]

theorem refresh_of_no_visits {c : Console σ} {time : Binary64}
    (idle : c.visits (.refresh time) = []) : ∃ outcome, (c.refresh time).1 = .ok outcome := by
  cases on : c.isRunning with
  | false => exact ⟨.stopped, by rw [(refresh_of_not_running on time).1]⟩
  | true =>
    obtain ⟨core, running⟩ := isRunning_iff.1 on
    rw [visits_of_running running] at idle
    have ended : ((c.machine core).walk (c.pacer.schedule time)).outcome = .ok false := by
      cases scheduled : c.pacer.schedule time with
      | nil => rfl
      | cons entry rest =>
        obtain ⟨later, visits⟩ := (c.machine core).visits_walk_cons entry rest
        rw [scheduled, visits] at idle
        cases idle
    obtain ⟨outcome, _, answered, _⟩ := refresh_of_walk_ok running ended
    exact ⟨outcome, answered⟩

/-- A refresh in which nothing goes wrong fails exactly if it enters the core and
something is parked.  It fails with that. -/
theorem refresh_of_clean {c : Console σ} {time : Binary64} (clean : c.Clean [.refresh time]) :
    (c.devices.fault = none ∨ c.visits (.refresh time) = [] →
        ∃ outcome, (c.refresh time).1 = .ok outcome)
      ∧ ∀ failure, c.devices.fault = some failure → c.visits (.refresh time) ≠ [] →
        (c.refresh time).1 = .error failure := by
  have results := clean.results
  simp only [visitsOf, List.append_nil] at results
  have granted : ∀ call ∈ (c.refresh time).2.devices.requestsSince c.devices,
      call.answer = none := clean.granted
  constructor
  · rintro (unparked | idle)
    · cases running : c.session with
      | none => exact ⟨.stopped, by simp only [refresh, running]⟩
      | finished core => exact ⟨.stopped, by simp only [refresh, running]⟩
      | running core =>
        obtain ⟨early, ended⟩ := walk_ok_of_granted running unparked results granted
        obtain ⟨outcome, _, answered, _⟩ := refresh_of_walk_ok running ended
        exact ⟨outcome, answered⟩
    · exact refresh_of_no_visits idle
  · intro failure parked entered
    cases running : c.session with
    | none => simp [visits, running] at entered
    | finished core => simp [visits, running] at entered
    | running core =>
      rw [visits_of_running running] at entered results
      have ended := Machine.walk_parked (m := c.machine core) parked entered results
      obtain ⟨rest, said, entries, _, step⟩ := refresh_of_walk_error running ended
      rw [step]

end Console

/-! ## A refusal in the cycle that gives up -/

namespace Scripted

/-- A speaker that refuses the first request to start. -/
def reluctant : Devices where
  keypad := { keymap := Keymap.conventional }
  beeper := { speaker := { beepAnswers := [some "no speaker"] } }

/-- A session whose first cycle asks for the tone and gives up. -/
def givingUp : List (Console.Op Scripted) := [
  .load (core [.call .enableSound fun _ => .done (.error ⟨"bad opcode"⟩)]) [],
  .refresh (Binary64.ofInt 0),
  .refresh (Binary64.ofInt 16)]

/-- The console that starts another session after it. -/
def restarted : Console Scripted :=
  (((Console.ofDevices {} reluctant).after givingUp).load (core []) []).2

theorem load_restarted :
    ((Console.ofDevices {} reluctant).after givingUp).load (core []) [] = (.ok (), restarted) :=
  eq_ok_of_failureOf (by decide +kernel)

/-- Nothing goes wrong in the next session. -/
theorem clean_restarted :
    restarted.Clean ([.refresh (Binary64.ofInt 20)] ++ [.refresh (Binary64.ofInt 36)]) where
  results := by
    have each : ((restarted.visitsOf [.refresh (Binary64.ofInt 20),
        .refresh (Binary64.ofInt 36)]).all fun v => v.result.isOk) = true := by decide +kernel
    intro v visited
    have ended := List.all_eq_true.1 each v visited
    cases result : v.result with
    | error fault => rw [result] at ended; cases ended
    | ok stop => exact ⟨stop, rfl⟩
  granted := by decide +kernel

/-- Its first frame fails nevertheless. -/
theorem refresh_restarted :
    ((restarted.after [.refresh (Binary64.ofInt 20)]).refresh (Binary64.ofInt 36)).1
      = .error (.audio "no speaker") :=
  failureOf_eq_some.1 (by decide +kernel)

end Scripted

namespace Console

variable {σ : Type u} [Interpreter σ]

/-! ## Refusals from before a load -/

/-- **What is left parked ends a later session.**  Take a load that succeeds in
any history of a console, and a run from there in which no core gives up and the
speaker never refuses.  A refresh in that run fails exactly if something is
parked at the load, nothing has taken it since, and this refresh enters the
core.  It fails with what is parked.  Something is parked at the load exactly if
a request was refused before it, and neither then nor later a core has come to a
result or someone has collected the fault. -/
theorem clean_refresh_fails_iff {config : Config} {devices : Devices}
    (unparked : devices.fault = none) {history later : List (Op σ)} {core : Core σ}
    {program : Bytes} {started : Console σ} {time : Binary64}
    (loaded : ((ofDevices config devices).after history).load core program = (.ok (), started))
    (clean : started.Clean (later ++ [.refresh time])) :
    (∀ failure, ((started.after later).refresh time).1 = .error failure
        ↔ (ofDevices config devices).parkedBy history = some failure
          ∧ ¬ started.TakesFault later ∧ (started.after later).visits (.refresh time) ≠ [])
      ∧ ((ofDevices config devices).parkedBy history ≠ none
        ↔ ∃ earlier e rest,
          (ofDevices config devices).faultEventsOf history = earlier ++ e :: rest
          ∧ e.refused ≠ none ∧ ∀ x ∈ e :: rest, x.takes = false) := by
  have start : started.devices.fault = (ofDevices config devices).parkedBy history := by
    rw [← fault_after]
    exact (begun_of_load loaded).fault
  obtain ⟨taken, kept⟩ := fault_after_of_clean clean.split.1
  obtain ⟨succeeds, fails⟩ := refresh_of_clean clean.split.2
  constructor
  · intro failure
    constructor
    · intro failed
      have parked : (started.after later).devices.fault ≠ none := by
        intro none_left
        obtain ⟨outcome, answered⟩ := succeeds (.inl none_left)
        rw [answered] at failed
        cases failed
      have entered : (started.after later).visits (.refresh time) ≠ [] := by
        intro idle
        obtain ⟨outcome, answered⟩ := succeeds (.inr idle)
        rw [answered] at failed
        cases failed
      have quiet : ¬ started.TakesFault later := fun takes => parked (taken takes)
      obtain ⟨other, some_left⟩ := Option.ne_none_iff_exists'.1 parked
      have same := fails other some_left entered
      rw [failed] at same
      cases same
      exact ⟨by rw [← start, ← kept quiet, some_left], quiet, entered⟩
    · rintro ⟨parked, quiet, entered⟩
      exact fails failure ((kept quiet).trans (start.trans parked)) entered
  · rw [← fault_after]
    exact parked_iff unparked history

/-- The failure is the one that the first session left parked. -/
theorem clean_refresh_fails_restarted :
    (ofDevices {} Scripted.reluctant).parkedBy Scripted.givingUp
      = some (.audio "no speaker") :=
  ((clean_refresh_fails_iff rfl Scripted.load_restarted Scripted.clean_restarted).1
    (.audio "no speaker")).1 Scripted.refresh_restarted |>.1

/-- The operation leaves the session as it is, unless it fails. -/
def Op.keepsSession {σ : Type u} : Op σ → Bool
  | .refresh _ | .devices _ => true
  | _ => false

/-- It is not so that every refresh of a session succeeds if no core gives up and
the speaker never refuses since its load. -/
theorem fault_crosses_load :
    ¬ ∀ (config : Config) (devices : Devices) (history later : List (Op Scripted))
        (core : Core Scripted) (program : Bytes) (started : Console Scripted) (time : Binary64),
      devices.fault = none →
      ((ofDevices config devices).after history).load core program = (.ok (), started) →
      (∀ op ∈ later, op.keepsSession = true) →
      started.Clean (later ++ [.refresh time]) →
      ∃ outcome, ((started.after later).refresh time).1 = .ok outcome := by
  intro claim
  obtain ⟨outcome, answered⟩ := claim {} Scripted.reluctant Scripted.givingUp
    [.refresh (Binary64.ofInt 20)] (Scripted.core []) [] Scripted.restarted (Binary64.ofInt 36)
    rfl Scripted.load_restarted (by simp [Op.keepsSession]) Scripted.clean_restarted
  rw [Scripted.refresh_restarted] at answered
  cases answered

end Console

end Chip8Console
