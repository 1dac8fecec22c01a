import Chip8Console.Proofs.Runs

/-!
# Consoles in step

Two consoles are *alike* if nobody who works with them can tell them apart.
Their records and their logs may differ, and so may the lists behind speaker and
random source, as long as these answer alike from here on.

Whatever is done to both consoles gives the same answers, enters the cores in
the same way, and leaves the consoles alike.  This is shown for one call of a
core, and carried on through routines, visits, walks, refreshes and operations.
Two states of two devices are *in step* if the devices are alike in the end and
the speakers have been asked the same.

* `Devices.Alike`, `Console.Alike`: what has to agree.
* `Devices.InStep`: what happens to both on the way.
* `Machine.walk_alike`: cores meet the same on both sides.
* `Console.perform_alike`, `Console.after_alike`: so does everyone else.
-/

namespace Chip8Console

universe u

/-! ## Sources that answer alike -/

/-- Two speakers give the same answers from here on. -/
structure Speaker.Alike (s t : Speaker) : Prop where
  /-- To requests to start. -/
  beep : ∀ i : Nat, s.beepAnswers[i]?.join = t.beepAnswers[i]?.join
  /-- To requests to stop. -/
  stop : ∀ i : Nat, s.stopAnswers[i]?.join = t.stopAnswers[i]?.join

/-- Two random sources give the same bytes from here on. -/
def Random.Alike (r s : Random) : Prop := ∀ count, (Random.draw count r).1 = (Random.draw count s).1

theorem Random.Alike.refl (r : Random) : r.Alike r := fun _ => rfl

theorem Random.draw_succ (count : Nat) (r : Random) :
    (Random.draw (count + 1) r).1 = r.next.1 :: (Random.draw count r.next.2).1 := by
  rw [draw]

theorem Random.Alike.next {r s : Random} (h : r.Alike s) :
    r.next.1 = s.next.1 ∧ r.next.2.Alike s.next.2 := by
  have bytes : ∀ count, r.next.1 :: (draw count r.next.2).1 = s.next.1 :: (draw count s.next.2).1 := by
    intro count
    rw [← draw_succ, ← draw_succ]
    exact h (count + 1)
  exact ⟨(List.cons.inj (bytes 0)).1, fun count => (List.cons.inj (bytes count)).2⟩

/-- Two beepers are switched alike and have speakers that answer alike. -/
structure Beeper.Alike (a b : Beeper) : Prop where
  active : a.active = b.active
  speaker : a.speaker.Alike b.speaker

theorem Speaker.Alike.beep_next {s t : Speaker} (h : s.Alike t) :
    s.beep.1 = t.beep.1 ∧ s.beep.2.Alike t.beep.2 := by
  refine ⟨?_, ?_, h.stop⟩
  · simpa [Speaker.beep, List.head?_eq_getElem?] using h.beep 0
  · intro i
    simpa [Speaker.beep] using h.beep (i + 1)

theorem Speaker.Alike.stop_next {s t : Speaker} (h : s.Alike t) :
    s.stop.1 = t.stop.1 ∧ s.stop.2.Alike t.stop.2 := by
  refine ⟨?_, h.beep, ?_⟩
  · simpa [Speaker.stop, List.head?_eq_getElem?] using h.stop 0
  · intro i
    simpa [Speaker.stop] using h.stop (i + 1)

namespace Beeper.Alike

variable {a b : Beeper}

theorem enable (h : a.Alike b) :
    a.enable.1 = b.enable.1 ∧ a.enable.2.Alike b.enable.2
      ∧ ∃ requests, a.enable.2.speaker.calls.toList = a.speaker.calls.toList ++ requests
        ∧ b.enable.2.speaker.calls.toList = b.speaker.calls.toList ++ requests := by
  obtain ⟨answers, speakers⟩ := h.speaker.beep_next
  have left := a.speaker.calls_beep
  have right := b.speaker.calls_beep
  unfold Beeper.enable
  rw [h.active]
  generalize a.speaker.beep = x at answers speakers left ⊢
  generalize b.speaker.beep = y at answers speakers right ⊢
  obtain ⟨answer, s⟩ := x
  obtain ⟨_, t⟩ := y
  cases answers
  cases b.active with
  | true => exact ⟨rfl, h, [], (List.append_nil _).symm, (List.append_nil _).symm⟩
  | false =>
    cases answer with
    | none => exact ⟨rfl, ⟨rfl, speakers⟩, _, left, right⟩
    | some text => exact ⟨rfl, ⟨rfl, speakers⟩, _, left, right⟩

theorem disable (h : a.Alike b) :
    a.disable.1 = b.disable.1 ∧ a.disable.2.Alike b.disable.2
      ∧ ∃ requests, a.disable.2.speaker.calls.toList = a.speaker.calls.toList ++ requests
        ∧ b.disable.2.speaker.calls.toList = b.speaker.calls.toList ++ requests := by
  obtain ⟨answers, speakers⟩ := h.speaker.stop_next
  have left := a.speaker.calls_stop
  have right := b.speaker.calls_stop
  unfold Beeper.disable
  rw [h.active]
  generalize a.speaker.stop = x at answers speakers left ⊢
  generalize b.speaker.stop = y at answers speakers right ⊢
  obtain ⟨answer, s⟩ := x
  obtain ⟨_, t⟩ := y
  cases answers
  cases b.active with
  | true =>
    cases answer with
    | none => exact ⟨rfl, ⟨rfl, speakers⟩, _, left, right⟩
    | some text => exact ⟨rfl, ⟨rfl, speakers⟩, _, left, right⟩
  | false => exact ⟨rfl, h, [], (List.append_nil _).symm, (List.append_nil _).symm⟩

end Beeper.Alike

/-! ## Devices in step -/

namespace Devices

/-- Nobody who works with the devices can tell them apart. -/
structure Alike (d e : Devices) : Prop where
  keypad : d.keypad = e.keypad
  screen : d.screen = e.screen
  beeper : d.beeper.Alike e.beeper
  random : d.random.Alike e.random
  diagnostics : d.diagnostics = e.diagnostics
  fault : d.fault = e.fault

/-- On the way from `d` and `e` to `d'` and `e'` both speakers were asked the same,
and the devices are alike in the end. -/
structure InStep (d e d' e' : Devices) : Prop where
  alike : d'.Alike e'
  asked : ∃ requests, d'.calls = d.calls ++ requests ∧ e'.calls = e.calls ++ requests

namespace InStep

variable {d e d' e' d'' e'' : Devices}

theorem quiet (alike : d'.Alike e') (left : d'.beeper.speaker = d.beeper.speaker)
    (right : e'.beeper.speaker = e.beeper.speaker) : InStep d e d' e' := by
  refine ⟨alike, [], ?_, ?_⟩
  · rw [calls, calls, left, List.append_nil]
  · rw [calls, calls, right, List.append_nil]

theorem trans (h₁ : InStep d e d' e') (h₂ : InStep d' e' d'' e'') : InStep d e d'' e'' := by
  obtain ⟨first, left₁, right₁⟩ := h₁.asked
  obtain ⟨second, left₂, right₂⟩ := h₂.asked
  refine ⟨h₂.alike, first ++ second, ?_, ?_⟩
  · rw [left₂, left₁, List.append_assoc]
  · rw [right₂, right₁, List.append_assoc]

theorem requestsSince (h : InStep d e d' e') : d'.requestsSince d = e'.requestsSince e := by
  obtain ⟨requests, left, right⟩ := h.asked
  rw [requestsSince_of_calls left, requestsSince_of_calls right]

end InStep

namespace Alike

variable {d e : Devices}

theorem withBeeper (h : d.Alike e) {a b : Beeper} (beepers : a.Alike b) :
    (d.withBeeper a).Alike (e.withBeeper b) :=
  ⟨h.keypad, h.screen, beepers, h.random, h.diagnostics, h.fault⟩

theorem withRandom (h : d.Alike e) {r s : Random} (randoms : r.Alike s) :
    Alike { d with random := r } { e with random := s } :=
  ⟨h.keypad, h.screen, h.beeper, randoms, h.diagnostics, h.fault⟩

theorem withKeypad (h : d.Alike e) (keypad : Keypad) :
    Alike { d with keypad } { e with keypad } :=
  ⟨rfl, h.screen, h.beeper, h.random, h.diagnostics, h.fault⟩

theorem withScreen (h : d.Alike e) (screen : Screen) :
    Alike { d with screen } { e with screen } :=
  ⟨h.keypad, rfl, h.beeper, h.random, h.diagnostics, h.fault⟩

theorem withFault (h : d.Alike e) (fault : Option Failure) :
    Alike { d with fault } { e with fault } :=
  ⟨h.keypad, h.screen, h.beeper, h.random, h.diagnostics, rfl⟩

theorem report (h : d.Alike e) (said told : List LogEntry) :
    (d.report said).Alike (e.report told) :=
  ⟨h.keypad, h.screen, h.beeper, h.random, h.diagnostics, h.fault⟩

theorem parkError (h : d.Alike e) (outcome : Except Failure Unit) :
    (d.parkError outcome).Alike (e.parkError outcome) := by
  cases outcome with
  | ok value => exact h
  | error failure =>
    refine ⟨h.keypad, h.screen, h.beeper, h.random, h.diagnostics, ?_⟩
    show d.fault.or _ = e.fault.or _
    rw [h.fault]

theorem diagnose (h : d.Alike e) (text : String) : (d.diagnose text).Alike (e.diagnose text) := by
  unfold Devices.diagnose
  rw [h.diagnostics]
  cases e.diagnostics with
  | true => exact h.report _ _
  | false => exact h

theorem silence (h : d.Alike e) :
    d.silence.1 = e.silence.1 ∧ InStep d e d.silence.2 e.silence.2 := by
  obtain ⟨outcomes, beepers, asked⟩ := h.beeper.disable
  exact ⟨outcomes, h.withBeeper beepers, asked⟩

theorem answer (h : d.Alike e) (c : DeviceCall) :
    (d.answer c).1 = (e.answer c).1 ∧ InStep d e (d.answer c).2 (e.answer c).2 := by
  cases c with
  | clearScreen =>
    simp only [Devices.answer, h.screen]
    exact ⟨trivial, .quiet (h.withScreen _) rfl rfl⟩
  | randomByte =>
    obtain ⟨bytes, sources⟩ := h.random.next
    refine ⟨bytes, ?_⟩
    rw [answer_randomByte, answer_randomByte]
    exact .quiet (h.withRandom sources) rfl rfl
  | togglePixel x y =>
    simp only [Devices.answer, h.screen]
    exact ⟨trivial, .quiet (h.withScreen _) rfl rfl⟩
  | isKeyDown id =>
    refine ⟨?_, .quiet h rfl rfl⟩
    simp only [Devices.answer, h.keypad]
  | consumeKey =>
    simp only [Devices.answer, h.keypad]
    exact ⟨trivial, .quiet (h.withKeypad _) rfl rfl⟩
  | enableSound =>
    obtain ⟨outcomes, beepers, requests, left, right⟩ := h.beeper.enable
    simp only [Devices.answer, outcomes]
    refine ⟨trivial, (h.withBeeper beepers).parkError _, requests, ?_, ?_⟩
    · rw [calls, beeper_parkError]
      exact left
    · rw [calls, beeper_parkError]
      exact right
  | disableSound =>
    obtain ⟨outcomes, beepers, requests, left, right⟩ := h.beeper.disable
    simp only [Devices.answer, outcomes]
    refine ⟨trivial, (h.withBeeper beepers).parkError _, requests, ?_, ?_⟩
    · rw [calls, beeper_parkError]
      exact left
    · rw [calls, beeper_parkError]
      exact right
  | debugByte value =>
    refine ⟨rfl, .quiet (h.diagnose _) ?_ ?_⟩
    · exact congrArg Beeper.speaker (beeper_diagnose d _)
    · exact congrArg Beeper.speaker (beeper_diagnose e _)
  | debugWord value =>
    refine ⟨rfl, .quiet (h.diagnose _) ?_ ?_⟩
    · exact congrArg Beeper.speaker (beeper_diagnose d _)
    · exact congrArg Beeper.speaker (beeper_diagnose e _)

end Alike

end Devices

/-! ## Cores in step -/

theorem Routine.run_alike {α : Type u} (routine : Routine α) {d e : Devices} (h : d.Alike e) :
    (routine.run d).1 = (routine.run e).1 ∧ routine.exchanges d = routine.exchanges e
      ∧ Devices.InStep d e (routine.run d).2 (routine.run e).2 := by
  induction routine generalizing d e with
  | done result => exact ⟨rfl, rfl, .quiet h rfl rfl⟩
  | call c next ih =>
    obtain ⟨answers, step⟩ := h.answer c
    obtain ⟨results, exchanges, onward⟩ := ih (d.answer c).1 step.alike
    simp only [run, Routine.exchanges]
    rw [← answers]
    exact ⟨results, by rw [exchanges], step.trans onward⟩

namespace Machine

variable {σ : Type u} [Interpreter σ]

/-- Two machines with the same core and devices that are alike. -/
structure Alike (m n : Machine σ) : Prop where
  core : m.core = n.core
  devices : m.devices.Alike n.devices

variable {m n : Machine σ}

/-- A core is entered the same way on both sides, and meets the same. -/
theorem enter_alike (h : m.Alike n) (entry : Entry) :
    m.visit entry = n.visit entry
      ∧ (m.enter entry.point).1 = (n.enter entry.point).1
      ∧ (m.enter entry.point).2.core = (n.enter entry.point).2.core
      ∧ Devices.InStep m.devices n.devices (m.enter entry.point).2.devices
          (n.enter entry.point).2.devices := by
  obtain ⟨results, exchanges, step⟩ := (entry.point m.core).run_alike h.devices
  have requests := step.requestsSince
  simp only [visit, enter, ← h.core]
  generalize (entry.point m.core).run m.devices = x at results step requests ⊢
  generalize (entry.point m.core).run n.devices = y at results step requests ⊢
  obtain ⟨⟨result, core⟩, d⟩ := x
  obtain ⟨_, e⟩ := y
  cases results
  refine ⟨by simp only [exchanges, requests], ?_⟩
  cases result with
  | error fault => exact ⟨rfl, rfl, step⟩
  | ok stop =>
    have faults : d.fault = e.fault := step.alike.fault
    have taken : Devices.InStep m.devices n.devices { d with fault := none }
        { e with fault := none } := ⟨step.alike.withFault none, step.asked⟩
    simp only [Devices.collectFault, faults]
    cases e.fault with
    | none => exact ⟨rfl, rfl, taken⟩
    | some failure => exact ⟨rfl, rfl, taken⟩

theorem walk_alike (h : m.Alike n) (entries : List Entry) :
    (m.walk entries).visits = (n.walk entries).visits
      ∧ (m.walk entries).outcome = (n.walk entries).outcome
      ∧ (m.walk entries).last.core = (n.walk entries).last.core
      ∧ Devices.InStep m.devices n.devices (m.walk entries).last.devices
          (n.walk entries).last.devices := by
  induction entries generalizing m n with
  | nil => exact ⟨rfl, rfl, h.core, .quiet h.devices rfl rfl⟩
  | cons entry rest ih =>
    obtain ⟨visits, outcomes, cores, step⟩ := enter_alike h entry
    rcases left : m.enter entry.point with ⟨outcome, m'⟩
    rcases right : n.enter entry.point with ⟨_, n'⟩
    rw [left, right] at outcomes cores step
    cases outcomes
    cases outcome with
    | error failure =>
      rw [walk_failed _ left, walk_failed _ right, visits]
      exact ⟨rfl, rfl, cores, step⟩
    | ok stop =>
      cases stop with
      | true =>
        rw [walk_stopped _ left, walk_stopped _ right, visits]
        exact ⟨rfl, rfl, cores, step⟩
      | false =>
        rw [walk_onward _ left, walk_onward _ right, visits]
        obtain ⟨later, ended, last, onward⟩ := ih ⟨cores, step.alike⟩
        exact ⟨by rw [later], ended, last, step.trans onward⟩

theorem frame_alike (h : m.Alike n) (budget : Nat) :
    (m.frame budget).1 = (n.frame budget).1
      ∧ (m.frame budget).2.core = (n.frame budget).2.core
      ∧ Devices.InStep m.devices n.devices (m.frame budget).2.devices
          (n.frame budget).2.devices := by
  obtain ⟨visits, outcomes, cores, step⟩ := walk_alike h (frameSchedule budget)
  rw [frame_eq_walk, frame_eq_walk, visits, outcomes]
  cases (n.walk (frameSchedule budget)).outcome with
  | error failure => exact ⟨rfl, cores, step⟩
  | ok early =>
    refine ⟨rfl, cores, ?_, step.asked⟩
    simp only [present, step.alike.screen]
    exact step.alike.withScreen _

end Machine

namespace Pacer

variable {σ : Type u} [Interpreter σ] {m n : Machine σ}

theorem refresh_alike (p : Pacer) (time : Binary64) (h : m.Alike n) :
    p.visits time m = p.visits time n
      ∧ (p.refresh time m).1 = (p.refresh time n).1
      ∧ (p.refresh time m).2.1 = (p.refresh time n).2.1
      ∧ (p.refresh time m).2.2.core = (p.refresh time n).2.2.core
      ∧ Devices.InStep m.devices n.devices (p.refresh time m).2.2.devices
          (p.refresh time n).2.2.devices := by
  refine ⟨(Machine.walk_alike h (p.schedule time)).1, ?_⟩
  cases due : p.due? time with
  | none =>
    rw [refresh_of_not_due due, refresh_of_not_due due]
    exact ⟨rfl, rfl, h.core, .quiet h.devices rfl rfl⟩
  | some elapsed =>
    rw [refresh_of_due due, refresh_of_due due]
    obtain ⟨answers, cores, step⟩ := Machine.frame_alike h (p.budget.cycles elapsed)
    exact ⟨answers, rfl, cores, step⟩

end Pacer

/-! ## Consoles in step -/

namespace Console

variable {σ : Type u} {c d : Console σ}

/-- Nobody who works with the consoles can tell them apart. -/
structure Alike (c d : Console σ) : Prop where
  devices : c.devices.Alike d.devices
  pacer : c.pacer = d.pacer
  session : c.session = d.session

/-- What happens when the same is done to two consoles: the answers are the same,
the consoles are alike afterwards, and their speakers were asked the same. -/
structure InStep {α : Type} (c d : Console σ) (x y : α × Console σ) : Prop where
  answer : x.1 = y.1
  after : x.2.Alike y.2
  asked : Devices.InStep c.devices d.devices x.2.devices y.2.devices

theorem stop_alike (h : c.Alike d) : InStep c d c.stop d.stop := by
  obtain ⟨outcomes, beepers, asked⟩ := h.devices.beeper.disable
  have devices : c.stop.2.devices.Alike d.stop.2.devices := by
    constructor
    · rw [keypad_stop, keypad_stop, h.devices.keypad]
    · rw [screen_stop, screen_stop, h.devices.screen]
    · rw [beeper_stop, beeper_stop]
      exact beepers
    · rw [random_stop, random_stop]
      exact h.devices.random
    · rw [diagnostics_stop, diagnostics_stop, h.devices.diagnostics]
    · rw [fault_stop, fault_stop, h.devices.fault]
  refine ⟨?_, ⟨devices, ?_, ?_⟩, devices, ?_⟩
  · rw [outcome_stop, outcome_stop, outcomes]
  · rw [pacer_stop, pacer_stop, h.pacer]
  · rw [session_stop, session_stop, h.session]
  · simp only [Devices.calls, beeper_stop]
    exact asked

theorem Alike.report (h : c.Alike d) (said told : List LogEntry) :
    (c.report said).Alike (d.report told) :=
  ⟨h.devices.report said told, h.pacer, h.session⟩

theorem shutDown_alike (h : c.Alike d) :
    c.shutDown.Alike d.shutDown
      ∧ Devices.InStep c.devices d.devices c.shutDown.devices d.shutDown.devices := by
  obtain ⟨_, after, asked⟩ := stop_alike h
  obtain ⟨said, left⟩ := c.shutDown_eq
  obtain ⟨told, right⟩ := d.shutDown_eq
  rw [left, right]
  have reported := after.report said told
  exact ⟨reported, reported.devices, asked.asked⟩

theorem load_alike (h : c.Alike d) (core : Core σ) (program : Bytes) :
    InStep c d (c.load core program) (d.load core program) := by
  obtain ⟨outcomes, after, asked⟩ := stop_alike h
  unfold load
  rcases left : c.stop with ⟨outcome, c'⟩
  rcases right : d.stop with ⟨_, d'⟩
  rw [left, right] at outcomes after asked
  cases outcomes
  cases outcome with
  | error failure => exact ⟨rfl, after, asked⟩
  | ok value =>
    rcases core.memory.install program with ⟨written, memory⟩
    cases written with
    | error failure => exact ⟨rfl, after, asked⟩
    | ok value =>
      have blank := (after.devices.withScreen Screen.blank).report
        [⟨.info, s!"session started with {program.length} byte program"⟩]
        [⟨.info, s!"session started with {program.length} byte program"⟩]
      exact ⟨rfl, ⟨blank, after.pacer, rfl⟩, blank, asked.asked⟩

variable [Interpreter σ]

theorem refresh_alike (h : c.Alike d) (time : Binary64) :
    c.visits (.refresh time) = d.visits (.refresh time)
      ∧ InStep c d (c.refresh time) (d.refresh time) := by
  have idle : InStep c d (.ok .stopped, c) ((.ok .stopped, d) : Except Failure RefreshOutcome × _) :=
    ⟨rfl, h, .quiet h.devices rfl rfl⟩
  cases running : d.session with
  | none =>
    simp only [visits, refresh, h.session, running]
    exact ⟨trivial, idle⟩
  | finished core =>
    simp only [visits, refresh, h.session, running]
    exact ⟨trivial, idle⟩
  | running core =>
    simp only [visits, refresh, h.session, running]
    rw [h.pacer]
    have machines : Machine.Alike ⟨core, c.devices⟩ ⟨core, d.devices⟩ := ⟨rfl, h.devices⟩
    obtain ⟨visits, answers, pacers, cores, step⟩ := d.pacer.refresh_alike time machines
    refine ⟨visits, ?_⟩
    generalize d.pacer.refresh time ⟨core, c.devices⟩ = x at answers pacers cores step ⊢
    generalize d.pacer.refresh time ⟨core, d.devices⟩ = y at answers pacers cores step ⊢
    obtain ⟨answer, pacer, core₁, devices₁⟩ := x
    obtain ⟨_, _, _, devices₂⟩ := y
    cases answers
    cases pacers
    cases cores
    cases answer with
    | ok outcome => exact ⟨rfl, ⟨step.alike, rfl, rfl⟩, step⟩
    | error failure =>
      have failing : Alike ⟨devices₁, pacer, .running core₁⟩ ⟨devices₂, pacer, .running core₁⟩ :=
        ⟨step.alike, rfl, rfl⟩
      obtain ⟨after, asked⟩ := shutDown_alike (failing.report
        [⟨.error, s!"session terminated: {failure.message}"⟩]
        [⟨.error, s!"session terminated: {failure.message}"⟩])
      exact ⟨rfl, after, step.trans ⟨asked.alike, asked.asked⟩⟩

theorem devices_alike (h : c.Alike d) (op : Devices.Op) :
    InStep c d (c.perform (.devices op)) (d.perform (.devices op)) := by
  have step : (c.devices.perform op).1 = (d.devices.perform op).1
      ∧ Devices.InStep c.devices d.devices (c.devices.perform op).2 (d.devices.perform op).2 := by
    cases op with
    | call call => exact h.devices.answer call
    | silence => exact h.devices.silence
    | collectFault => exact ⟨h.devices.fault, .quiet (h.devices.withFault none) rfl rfl⟩
    | keypad op =>
      simp only [Devices.perform, h.devices.keypad]
      exact ⟨trivial, .quiet (h.devices.withKeypad _) rfl rfl⟩
    | screen op =>
      simp only [Devices.perform, h.devices.screen]
      exact ⟨trivial, .quiet (h.devices.withScreen _) rfl rfl⟩
  exact ⟨step.1, ⟨step.2.alike, h.pacer, h.session⟩, step.2⟩

/-- Whatever is done to both consoles is answered alike. -/
theorem perform_alike (h : c.Alike d) (op : Op σ) :
    c.visits op = d.visits op ∧ InStep c d (c.perform op) (d.perform op) := by
  cases op with
  | load core program => exact ⟨rfl, load_alike h core program⟩
  | loadFrom core source =>
    refine ⟨rfl, ?_⟩
    show InStep c d (c.loadFrom core source) (d.loadFrom core source)
    unfold loadFrom
    cases source.readAll with
    | error failure => exact ⟨rfl, h, .quiet h.devices rfl rfl⟩
    | ok program => exact load_alike h core program
  | refresh time => exact refresh_alike h time
  | stop => exact ⟨rfl, stop_alike h⟩
  | devices op => exact ⟨rfl, devices_alike h op⟩

theorem after_alike (h : c.Alike d) (ops : List (Op σ)) : (c.after ops).Alike (d.after ops) := by
  induction ops generalizing c d with
  | nil => exact h
  | cons op rest ih => exact ih (perform_alike h op).2.after

end Console

end Chip8Console
