import Chip8Console.Proofs.KeyHistory
import Chip8Console.Proofs.Lifecycle

/-!
# Keys for a program that waits

A program that waits for a key asks for the latched one in every cycle.  If there
is none the frame ends.  So a frame takes the latched key once, and a key that is
pressed is taken in the next frame, unless another bound key goes down or up
before.

* `WaitsForKeys`: cores that wait for keys and keep those they got.
* `WaitsForKeys.walk_frame`: what a frame does for such a core.
* `Console.Served`: what a refresh does.
* `Console.deliveries`: the presses of a run that are taken, with their places.
* `Console.keys_delivered_once`: the main statement.
-/

namespace Chip8Console

universe u

variable {σ : Type u}

/-! ## Inputs -/

/-- What can happen between a load and its end: keys go down and up, and the
console is called. -/
inductive Input where
  /-- A physical key goes down. -/
  | press (key : Char)
  /-- A physical key goes up. -/
  | release (key : Char)
  | refresh (time : Binary64)
  deriving DecidableEq

namespace Input

def op : Input → Console.Op σ
  | .press key => .devices (.keypad (.press key))
  | .release key => .devices (.keypad (.release key))
  | .refresh time => .refresh time

/-- A bound key goes down or up. -/
def moves (m : Keymap) : Input → Bool
  | .press key | .release key => (m.id? key).isSome
  | .refresh _ => false

/-- The id whose key goes down. -/
def pressed? (m : Keymap) : Input → Option KeyId
  | .press key => m.id? key
  | _ => none

theorem pressed?_of_still {m : Keymap} {input : Input} (still : input.moves m = false) :
    input.pressed? m = none := by
  cases input with
  | press key => exact Option.isNone_iff_eq_none.1 (Option.isSome_eq_false_iff.1 still)
  | release key => rfl
  | refresh time => rfl

end Input

/-- The budget of the frame that an operation processes, if it does. -/
def Console.frameBudget? (c : Console σ) : Console.Op σ → Option Nat
  | .refresh time => (c.pacer.due? time).map c.pacer.budget.cycles
  | _ => none

theorem Keypad.consume_of_empty {p : Keypad} (empty : p.latched = none) : p.consume.2 = p := by
  rw [consume, ← empty]

variable [Interpreter σ]

/-! ## Cores that wait -/

/-- A core that waits for keys and records them.  Without a key a cycle asks to
stop and changes nothing.  With a key it records the key and goes on.  The timers
have nothing to do with keys, and may fail. -/
structure WaitsForKeys (recorded : σ → List KeyId) : Prop where
  cycle : ∀ core : Core σ, ∃ next : KeyId → Core σ,
    (∀ id, recorded (next id).state = recorded core.state ++ [id])
      ∧ Interpreter.cycle core = .call .consumeKey fun
        | none => .done (.ok true, core)
        | some id => .done (.ok false, next id)
  tick : ∀ (core : Core σ) (d : Devices),
    recorded ((Interpreter.tick core).run d).1.2.state = recorded core.state
      ∧ ((Interpreter.tick core).run d).2.keypad = d.keypad

/-- What an entry point leaves of the core and the keypad is what its routine
left, and nothing is parked after a success. -/
theorem Machine.enter_leaves (m : Machine σ) (entry : Entry) :
    (m.enter entry.point).2.core = ((entry.point m.core).run m.devices).1.2
      ∧ (m.enter entry.point).2.devices.keypad = ((entry.point m.core).run m.devices).2.keypad
      ∧ ((m.enter entry.point).1.isOk = true → (m.enter entry.point).2.devices.fault = none) := by
  cases ended : (m.visit entry).result with
  | error fault =>
    rw [enter_of_error ended]
    exact ⟨rfl, rfl, Bool.noConfusion⟩
  | ok stop =>
    rw [enter_of_ok ended]
    exact ⟨rfl, rfl, fun _ => rfl⟩

variable {recorded : σ → List KeyId}

namespace WaitsForKeys

/-- A cycle takes the latched key, and asks to stop if there is none. -/
theorem enter_cycle (waits : WaitsForKeys recorded) {m : Machine σ}
    (unparked : m.devices.fault = none) :
    ∃ next, m.enter Entry.cycle.point = (.ok m.devices.keypad.latched.isNone, next)
      ∧ recorded next.core.state = recorded m.core.state ++ m.devices.keypad.latched.toList
      ∧ next.devices.keypad = m.devices.keypad.consume.2
      ∧ next.devices.fault = none := by
  obtain ⟨onward, records, cycle⟩ := waits.cycle m.core
  have ran : (Entry.cycle.point m.core).run m.devices
      = (match m.devices.keypad.latched with
          | none => (.ok true, m.core)
          | some id => (.ok false, onward id),
        { m.devices with keypad := m.devices.keypad.consume.2 }) := by
    rw [Entry.point, cycle, Routine.run]
    simp only [Devices.answer, Keypad.consume]
    cases m.devices.keypad.latched with
    | none => rfl
    | some id => rfl
  rw [Machine.enter, ran]
  cases m.devices.keypad.latched with
  | none =>
    simp only [Devices.collectFault, unparked]
    exact ⟨_, rfl, (List.append_nil _).symm, rfl, rfl⟩
  | some id =>
    simp only [Devices.collectFault, unparked]
    exact ⟨_, rfl, records id, rfl, rfl⟩

/-- Without a latched key, further cycles change nothing. -/
theorem walk_cycles_of_empty (waits : WaitsForKeys recorded) {m : Machine σ}
    (unparked : m.devices.fault = none) (empty : m.devices.keypad.latched = none) (count : Nat) :
    ∃ early, (m.walk (List.replicate count .cycle)).outcome = .ok early
      ∧ recorded (m.walk (List.replicate count .cycle)).last.core.state = recorded m.core.state
      ∧ (m.walk (List.replicate count .cycle)).last.devices.keypad = m.devices.keypad := by
  cases count with
  | zero => exact ⟨false, rfl, rfl, rfl⟩
  | succ more =>
    obtain ⟨next, entered, records, keypad, _⟩ := waits.enter_cycle unparked
    rw [empty] at entered records
    rw [List.replicate_succ, Machine.walk_stopped _ entered]
    exact ⟨true, rfl, records.trans (List.append_nil _),
      keypad.trans (Keypad.consume_of_empty empty)⟩

/-- The cycles of a frame take the latched key once. -/
theorem walk_cycles (waits : WaitsForKeys recorded) {m : Machine σ}
    (unparked : m.devices.fault = none) (more : Nat) :
    ∃ early, (m.walk (List.replicate (more + 1) .cycle)).outcome = .ok early
      ∧ recorded (m.walk (List.replicate (more + 1) .cycle)).last.core.state
        = recorded m.core.state ++ m.devices.keypad.latched.toList
      ∧ (m.walk (List.replicate (more + 1) .cycle)).last.devices.keypad
        = m.devices.keypad.consume.2 := by
  obtain ⟨next, entered, records, keypad, taken⟩ := waits.enter_cycle unparked
  rw [List.replicate_succ]
  cases latched : m.devices.keypad.latched with
  | none =>
    rw [latched] at entered records
    rw [Machine.walk_stopped _ entered]
    exact ⟨true, rfl, records, keypad⟩
  | some id =>
    rw [latched] at entered records
    have empty : next.devices.keypad.latched = none := by
      rw [keypad]
      rfl
    obtain ⟨early, outcome, core, left⟩ := waits.walk_cycles_of_empty taken empty more
    rw [Machine.walk_onward _ entered]
    exact ⟨early, outcome, core.trans records, left.trans keypad⟩

theorem enter_tick (waits : WaitsForKeys recorded) (m : Machine σ) :
    recorded (m.enter Entry.tick.point).2.core.state = recorded m.core.state
      ∧ (m.enter Entry.tick.point).2.devices.keypad = m.devices.keypad := by
  obtain ⟨core, keypad, _⟩ := m.enter_leaves .tick
  rw [core, keypad, Entry.point, Routine.run_bind]
  exact waits.tick m.core m.devices

/-- A frame with room for a cycle takes the latched key once, unless the timers
fail. -/
theorem walk_frame (waits : WaitsForKeys recorded) (m : Machine σ) (more : Nat) :
    (∃ early, (m.walk (frameSchedule (more + 1))).outcome = .ok early
        ∧ recorded (m.walk (frameSchedule (more + 1))).last.core.state
          = recorded m.core.state ++ m.devices.keypad.latched.toList
        ∧ (m.walk (frameSchedule (more + 1))).last.devices.keypad = m.devices.keypad.consume.2)
      ∨ ∃ failure, (m.walk (frameSchedule (more + 1))).outcome = .error failure
        ∧ recorded (m.walk (frameSchedule (more + 1))).last.core.state = recorded m.core.state
        ∧ (m.walk (frameSchedule (more + 1))).last.devices.keypad = m.devices.keypad := by
  obtain ⟨core, keypad⟩ := waits.enter_tick m
  obtain ⟨_, _, unparked⟩ := m.enter_leaves .tick
  have goesOn := m.enter_tick_ne_stop
  rw [frameSchedule]
  rcases entered : m.enter Entry.tick.point with ⟨answer, next⟩
  rw [entered] at core keypad unparked goesOn
  cases answer with
  | error failure =>
    rw [Machine.walk_failed _ entered]
    exact .inr ⟨failure, rfl, core, keypad⟩
  | ok stop =>
    cases stop with
    | true => exact absurd rfl goesOn
    | false =>
      obtain ⟨early, outcome, last, left⟩ := waits.walk_cycles (unparked rfl) more
      rw [core, keypad] at last
      rw [keypad] at left
      rw [Machine.walk_onward _ entered]
      exact .inl ⟨early, outcome, last, left⟩

end WaitsForKeys

/-! ## Refreshes -/

namespace Console

/-- A refresh processes a frame to its end. -/
def completes (c : Console σ) (time : Binary64) : Bool :=
  match (c.refresh time).1 with
  | .ok (.frame _ _) => true
  | _ => false

/-- All that a refresh can do to a session whose core waits for keys. -/
inductive Served (recorded : σ → List KeyId) (c : Console σ) (core : Core σ) (time : Binary64) :
    Console σ → Prop
  /-- A frame takes the latched key. -/
  | frame {next : Console σ} {last : Core σ} (completed : c.completes time = true)
      (session : next.session = .running last)
      (records : recorded last.state = recorded core.state ++ c.devices.keypad.latched.toList)
      (keypad : next.devices.keypad = c.devices.keypad.consume.2) : Served recorded c core time next
  /-- Without a frame nothing is taken. -/
  | waiting {next : Console σ} (early : c.completes time = false)
      (session : next.session = .running core)
      (keypad : next.devices.keypad = c.devices.keypad) : Served recorded c core time next
  /-- A failure ends the session, and no key is taken. -/
  | failed {next : Console σ} {last : Core σ} (cut : c.completes time = false)
      (session : next.session = .finished last)
      (records : recorded last.state = recorded core.state)
      (keypad : next.devices.keypad = c.devices.keypad.reset) : Served recorded c core time next

theorem served (waits : WaitsForKeys recorded) {c : Console σ} {core : Core σ} {time : Binary64}
    (running : c.session = .running core) (roomy : c.frameBudget? (.refresh time) ≠ some 0) :
    c.Served recorded core time (c.refresh time).2 := by
  cases due : c.pacer.due? time with
  | none =>
    have passed := Pacer.refresh_of_not_due due (c.machine core)
    have early : c.completes time = false := by
      rw [completes, answer_refresh running, passed, Pacer.pass]
      cases time.isFinite && c.pacer.isIdle with
      | true => rfl
      | false => rfl
    rw [machine] at passed
    simp only [refresh, running, passed]
    exact .waiting early rfl rfl
  | some elapsed =>
    rw [frameBudget?, due, Option.map_some, Ne, Option.some.injEq] at roomy
    obtain ⟨more, budget⟩ := Nat.exists_eq_succ_of_ne_zero roomy
    have schedule := Pacer.schedule_of_due due
    have answer := answer_refresh running time
    rw [Pacer.refresh_of_due due, Machine.frame_eq_walk] at answer
    have walked := waits.walk_frame (c.machine core) more
    rw [budget] at schedule answer
    rw [← schedule] at walked
    rw [Nat.succ_eq_add_one, ← schedule] at answer
    rcases walked with ⟨early, outcome, records, keypad⟩ | ⟨failure, outcome, records, keypad⟩
    · rw [outcome] at answer
      have completed : c.completes time = true := by rw [completes, answer]
      obtain ⟨_, pacer, last, step, left⟩ := refresh_eq_of_walk_ok running outcome
      rw [step]
      rcases left with rfl | rfl
      · exact .frame completed rfl records keypad
      · exact .frame completed rfl records keypad
    · rw [outcome] at answer
      have cut : c.completes time = false := by rw [completes, answer]
      obtain ⟨rest, said, entries, devices, session, step⟩ :=
        refresh_eq_of_walk_error running outcome
      have finished : (rest.stop.2.report entries).session
          = .finished ((c.machine core).walk (c.pacer.schedule time)).last.core := by
        refine (session_stop rest).trans ?_
        rw [session, Session.finish]
      have released : (rest.stop.2.report entries).devices.keypad = c.devices.keypad.reset := by
        refine (keypad_stop rest).trans ?_
        rw [devices]
        exact congrArg Keypad.reset keypad
      rw [step]
      exact .failed cut finished records released

end Console

/-! ## Runs -/

namespace Console

/-- The console after inputs in a row. -/
def given (c : Console σ) (inputs : List Input) : Console σ := c.after (inputs.map Input.op)

/-- An input that processes a frame to its end. -/
def presents (c : Console σ) : Input → Bool
  | .refresh time => c.completes time
  | _ => false

/-- A frame is processed before a bound key goes down or up. -/
def reachesFrame (m : Keymap) (c : Console σ) : List Input → Bool
  | [] => false
  | input :: rest =>
      !input.moves m && (c.presents input || reachesFrame m (c.perform input.op).2 rest)

/-- The key that goes down, if a frame is processed before another goes down or
up. -/
def taken (m : Keymap) (c : Console σ) (input : Input) (rest : List Input) : List KeyId :=
  if reachesFrame m (c.perform input.op).2 rest then (input.pressed? m).toList else []

/-- The presses of a run that a frame takes, each with its place, counted from
`place` on. -/
def deliveries (m : Keymap) (c : Console σ) (place : Nat) : List Input → List (Nat × KeyId)
  | [] => []
  | input :: rest =>
      (c.taken m input rest).map (Prod.mk place)
        ++ deliveries m (c.perform input.op).2 (place + 1) rest

/-- The latched key, if a frame takes it. -/
def pending (m : Keymap) (c : Console σ) (inputs : List Input) : List KeyId :=
  if reachesFrame m c inputs then c.devices.keypad.latched.toList else []

/-- Without a session there are no frames. -/
theorem completes_of_not_running {c : Console σ} (off : c.isRunning = false) (time : Binary64) :
    c.completes time = false := by
  rw [completes, (refresh_of_not_running off time).1]

theorem reachesFrame_of_not_running {c : Console σ} {m : Keymap} (off : c.isRunning = false)
    (inputs : List Input) : c.reachesFrame m inputs = false := by
  induction inputs generalizing c with
  | nil => rfl
  | cons input rest ih =>
    have begins : c.begins input.op = false := by
      cases input with
      | press key => rfl
      | release key => rfl
      | refresh time => rfl
    have still := not_running_perform off begins
    have unpresented : c.presents input = false := by
      cases input with
      | press key => rfl
      | release key => rfl
      | refresh time => exact completes_of_not_running off time
    rw [reachesFrame, unpresented, ih still, Bool.or_false, Bool.and_false]

/-- What a step hands over to the steps after it: the keys that the core has got
and will get do not change, but for a key that goes down and will be taken. -/
structure HandsOver (recorded : σ → List KeyId) (m : Keymap) (c : Console σ) (core : Core σ)
    (input : Input) (rest : List Input) (last : Core σ) : Prop where
  keymap : (c.perform input.op).2.devices.keypad.keymap = m
  session : (c.perform input.op).2.session.lastCore? = some last
  records : recorded last.state ++ (c.perform input.op).2.pending m rest
    = recorded core.state ++ (c.pending m (input :: rest) ++ c.taken m input rest)

variable {c : Console σ} {core : Core σ} {m : Keymap}

/-- An input that changes nothing hands over what it found. -/
theorem handsOver_of_same (keymap : c.devices.keypad.keymap = m)
    (left : c.session.lastCore? = some core) {input : Input} (still : input.moves m = false)
    (unpresented : c.presents input = false) (same : (c.perform input.op).2 = c)
    (rest : List Input) : c.HandsOver recorded m core input rest core where
  keymap := by rwa [same]
  session := by rwa [same]
  records := by
    have unpressed := Input.pressed?_of_still still
    simp [pending, taken, reachesFrame, still, unpresented, unpressed, same]

/-- A bound key that moves takes the place of the latched key. -/
theorem handsOver_of_moves {input : Input} (moves : input.moves m = true)
    (keymap : (c.perform input.op).2.devices.keypad.keymap = m)
    (left : (c.perform input.op).2.session.lastCore? = some core)
    (latched : (c.perform input.op).2.devices.keypad.latched = input.pressed? m)
    (rest : List Input) : c.HandsOver recorded m core input rest core where
  keymap := keymap
  session := left
  records := by simp [pending, taken, reachesFrame, moves, latched]

theorem handsOver_press (keymap : c.devices.keypad.keymap = m)
    (left : c.session.lastCore? = some core) (key : Char) (rest : List Input) :
    c.HandsOver recorded m core (.press key) rest core := by
  have step : (c.perform (Input.press key).op).2
      = { c with devices := { c.devices with keypad := (c.devices.keypad.press key).2 } } := rfl
  cases bound : m.id? key with
  | none =>
    refine handsOver_of_same keymap left (by rw [Input.moves, bound]; rfl) rfl ?_ rest
    rw [step, Keypad.press, keymap, bound]
  | some id =>
    refine handsOver_of_moves (by rw [Input.moves, bound]; rfl) ?_ ?_ ?_ rest
    · exact (c.devices.keypad.keymap_press key).trans keymap
    · exact left
    · rw [step, Keypad.press, keymap, Input.pressed?, bound]

theorem handsOver_release (keymap : c.devices.keypad.keymap = m)
    (left : c.session.lastCore? = some core) (key : Char) (rest : List Input) :
    c.HandsOver recorded m core (.release key) rest core := by
  have step : (c.perform (Input.release key).op).2
      = { c with devices := { c.devices with keypad := (c.devices.keypad.release key).2 } } := rfl
  cases bound : m.id? key with
  | none =>
    refine handsOver_of_same keymap left (by rw [Input.moves, bound]; rfl) rfl ?_ rest
    rw [step, Keypad.release, keymap, bound]
  | some id =>
    refine handsOver_of_moves (by rw [Input.moves, bound]; rfl) ?_ ?_ ?_ rest
    · exact (c.devices.keypad.keymap_release key).trans keymap
    · exact left
    · rw [step, Keypad.release, keymap, bound]
      rfl

theorem handsOver_refresh (waits : WaitsForKeys recorded)
    (keymap : c.devices.keypad.keymap = m) (left : c.session.lastCore? = some core)
    {time : Binary64} (roomy : c.frameBudget? (.refresh time) ≠ some 0) (rest : List Input) :
    ∃ last, c.HandsOver recorded m core (.refresh time) rest last := by
  cases on : c.isRunning with
  | false =>
    have same : (c.perform (Input.refresh time).op).2 = c :=
      congrArg Prod.snd (refresh_of_not_running on time).1
    have unpresented : c.presents (.refresh time) = false := completes_of_not_running on time
    exact ⟨core, handsOver_of_same keymap left rfl unpresented same rest⟩
  | true =>
    obtain ⟨_, running⟩ := isRunning_iff.1 on
    rw [running] at left
    cases left
    have served := served waits running roomy
    have step : (c.perform (Input.refresh time).op).2 = (c.refresh time).2 := rfl
    generalize (c.refresh time).2 = next at served step
    cases served with
    | @frame last completed session records keypad =>
      have empty : next.devices.keypad.latched = none := by
        rw [keypad]
        rfl
      refine ⟨last, ⟨?_, by rw [step, session]; rfl, ?_⟩⟩
      · rw [step, keypad]
        exact keymap
      · simp [pending, taken, reachesFrame, presents, Input.moves, Input.pressed?, step, completed,
          records, empty]
    | waiting early session keypad =>
      refine ⟨core, ⟨by rwa [step, keypad], by rw [step, session]; rfl, ?_⟩⟩
      simp [pending, taken, reachesFrame, presents, Input.moves, Input.pressed?, step, early,
        keypad]
    | @failed last cut session records keypad =>
      -- the latch was emptied, but no frame would have taken what was in it
      have off : next.isRunning = false := by
        rw [isRunning, session]
        rfl
      refine ⟨last, ⟨?_, by rw [step, session]; rfl, ?_⟩⟩
      · rw [step, keypad]
        exact keymap
      · simp [pending, taken, reachesFrame, presents, Input.moves, step, cut, records,
          reachesFrame_of_not_running off]

/-- The keys that a core got in a run are the latched one, if a frame took it, and
those that went down and were taken, in order. -/
theorem recorded_given (waits : WaitsForKeys recorded)
    (keymap : c.devices.keypad.keymap = m) (left : c.session.lastCore? = some core)
    {inputs : List Input}
    (roomy : c.Throughout (fun d op => d.frameBudget? op ≠ some 0) (inputs.map Input.op))
    (place : Nat) :
    ∃ last, (c.given inputs).session.lastCore? = some last
      ∧ recorded last.state = recorded core.state
        ++ (c.pending m inputs ++ (c.deliveries m place inputs).map Prod.snd) := by
  induction inputs generalizing c core place with
  | nil => exact ⟨core, left, by simp [pending, reachesFrame, deliveries]⟩
  | cons input rest ih =>
    obtain ⟨room, later⟩ := roomy
    have step : ∃ last, c.HandsOver recorded m core input rest last := by
      cases input with
      | press key => exact ⟨core, handsOver_press keymap left key rest⟩
      | release key => exact ⟨core, handsOver_release keymap left key rest⟩
      | refresh time => exact handsOver_refresh waits keymap left room rest
    obtain ⟨next, step⟩ := step
    -- the core has got more, or the latch holds more that a frame will take
    obtain ⟨last, ended, records⟩ := ih step.keymap step.session later (place + 1)
    refine ⟨last, ended, records.trans ?_⟩
    rw [← List.append_assoc, step.records, deliveries]
    simp [Function.comp_def]

/-! ## What is taken, read off the run -/

/-- After the inputs so far, a frame comes before a bound key goes down or up. -/
def FrameFollows (m : Keymap) (c : Console σ) (inputs : List Input) : Prop :=
  ∃ between time later, inputs = between ++ .refresh time :: later
    ∧ (∀ input ∈ between, input.moves m = false) ∧ (c.given between).completes time = true

theorem reachesFrame_iff {m : Keymap} {c : Console σ} {inputs : List Input} :
    c.reachesFrame m inputs = true ↔ c.FrameFollows m inputs := by
  induction inputs generalizing c with
  | nil =>
    refine iff_of_false Bool.false_ne_true ?_
    rintro ⟨between, time, later, split, _⟩
    exact List.append_ne_nil_of_right_ne_nil between (List.cons_ne_nil _ later) split.symm
  | cons input rest ih =>
    rw [reachesFrame, Bool.and_eq_true, Bool.not_eq_true', Bool.or_eq_true, ih]
    constructor
    · rintro ⟨still, presents | ⟨between, time, later, rfl, quiet, completed⟩⟩
      · cases input with
        | press key => cases presents
        | release key => cases presents
        | refresh time => exact ⟨[], time, rest, rfl, by simp, presents⟩
      · exact ⟨input :: between, time, later, rfl, List.forall_mem_cons.2 ⟨still, quiet⟩, completed⟩
    · rintro ⟨between, time, later, split, quiet, completed⟩
      cases between with
      | nil =>
        cases split
        exact ⟨rfl, .inl completed⟩
      | cons first between =>
        cases split
        obtain ⟨still, quiet⟩ := List.forall_mem_cons.1 quiet
        exact ⟨still, .inr ⟨between, time, later, rfl, quiet, completed⟩⟩

/-- The key for an id goes down at the given place, and a frame comes before a
bound key goes down or up. -/
def Delivered (m : Keymap) (c : Console σ) (inputs : List Input) (place : Nat) (id : KeyId) :
    Prop :=
  ∃ earlier key later, inputs = earlier ++ .press key :: later ∧ earlier.length = place
    ∧ m.id? key = some id ∧ (c.given (earlier ++ [.press key])).FrameFollows m later

theorem delivered_zero {m : Keymap} {c : Console σ} {input : Input} {rest : List Input}
    {id : KeyId} : c.Delivered m (input :: rest) 0 id ↔ id ∈ c.taken m input rest := by
  have mem : id ∈ c.taken m input rest
      ↔ (c.perform input.op).2.FrameFollows m rest ∧ input.pressed? m = some id := by
    rw [← reachesFrame_iff, taken]
    split
    · next follows => simp [follows]
    · next missed => simp [missed]
  rw [mem]
  constructor
  · rintro ⟨earlier, key, later, split, length, bound, follows⟩
    cases List.length_eq_zero_iff.1 length
    cases split
    exact ⟨follows, bound⟩
  · rintro ⟨follows, pressed⟩
    cases input with
    | press key => exact ⟨[], key, rest, rfl, rfl, pressed, follows⟩
    | release key => cases pressed
    | refresh time => cases pressed

theorem delivered_succ {m : Keymap} {c : Console σ} {input : Input} {rest : List Input}
    {place : Nat} {id : KeyId} :
    c.Delivered m (input :: rest) (place + 1) id
      ↔ (c.perform input.op).2.Delivered m rest place id := by
  constructor
  · rintro ⟨earlier, key, later, split, length, bound, follows⟩
    cases earlier with
    | nil => cases length
    | cons first earlier =>
      cases split
      exact ⟨earlier, key, later, rfl, Nat.succ.inj length, bound, follows⟩
  · rintro ⟨earlier, key, later, rfl, rfl, bound, follows⟩
    exact ⟨input :: earlier, key, later, rfl, rfl, bound, follows⟩

theorem le_of_mem_deliveries {m : Keymap} {c : Console σ} {inputs : List Input}
    {first place : Nat} {id : KeyId} (listed : (place, id) ∈ c.deliveries m first inputs) :
    first ≤ place := by
  induction inputs generalizing c first with
  | nil => cases listed
  | cons input rest ih =>
    rcases List.mem_append.1 listed with now | later
    · obtain ⟨_, _, same⟩ := List.mem_map.1 now
      cases same
      exact Nat.le_refl place
    · exact Nat.le_of_succ_le (ih later)

theorem mem_deliveries {m : Keymap} {c : Console σ} {inputs : List Input} {first place : Nat}
    {id : KeyId} :
    (first + place, id) ∈ c.deliveries m first inputs ↔ c.Delivered m inputs place id := by
  induction inputs generalizing c first place with
  | nil =>
    refine iff_of_false List.not_mem_nil ?_
    rintro ⟨earlier, key, later, split, _⟩
    exact List.append_ne_nil_of_right_ne_nil earlier (List.cons_ne_nil _ later) split.symm
  | cons input rest ih =>
    rw [deliveries, List.mem_append, List.mem_map]
    cases place with
    | zero =>
      rw [delivered_zero]
      constructor
      · rintro (⟨_, taken, same⟩ | later)
        · cases same
          exact taken
        · have := le_of_mem_deliveries later
          omega
      · exact fun taken => .inl ⟨id, taken, rfl⟩
    | succ place =>
      have onward : (first + 1 + place, id) ∈ (c.perform input.op).2.deliveries m (first + 1) rest
        ↔ (c.perform input.op).2.Delivered m rest place id := ih
      rw [delivered_succ, ← onward, Nat.add_right_comm, Nat.add_assoc]
      constructor
      · rintro (⟨_, _, same⟩ | later)
        · injection same with place_eq
          omega
        · exact later
      · exact .inr

/-- Presses are taken in order, and none is taken twice. -/
theorem pairwise_deliveries (m : Keymap) (c : Console σ) (first : Nat) (inputs : List Input) :
    ((c.deliveries m first inputs).map Prod.fst).Pairwise (· < ·) := by
  induction inputs generalizing c first with
  | nil => exact .nil
  | cons input rest ih =>
    rw [deliveries, List.map_append, List.pairwise_append]
    refine ⟨?_, ih _ _, ?_⟩
    · rw [taken]
      split
      · cases input.pressed? m with
        | none => exact .nil
        | some id => exact List.pairwise_singleton _ _
      · exact .nil
    · intro place now other later
      obtain ⟨_, listed, rfl⟩ := List.mem_map.1 now
      obtain ⟨_, _, rfl⟩ := List.mem_map.1 listed
      obtain ⟨_, member, rfl⟩ := List.mem_map.1 later
      exact le_of_mem_deliveries member

/-- The inputs process no frame to its end. -/
def NoFrame (c : Console σ) (inputs : List Input) : Prop :=
  ∀ before time after, inputs = before ++ .refresh time :: after →
    (c.given before).completes time = false

theorem noFrame_nil (c : Console σ) : c.NoFrame [] := fun before _ after split =>
  absurd split.symm (List.append_ne_nil_of_right_ne_nil before (List.cons_ne_nil _ after))

theorem noFrame_cons {c : Console σ} {input : Input} {rest : List Input}
    (unpresented : c.presents input = false) (none : (c.perform input.op).2.NoFrame rest) :
    c.NoFrame (input :: rest) := by
  intro before time after split
  cases before with
  | nil =>
    cases split
    exact unpresented
  | cons first before =>
    cases split
    exact none before time after rfl

/-- What is missed was replaced or cleared before the next frame, or no frame
followed. -/
theorem noFrame_or_moved {m : Keymap} {c : Console σ} {inputs : List Input}
    (missed : c.reachesFrame m inputs = false) :
    c.NoFrame inputs ∨ ∃ between input later, inputs = between ++ input :: later
      ∧ input.moves m = true ∧ c.NoFrame between := by
  induction inputs generalizing c with
  | nil => exact .inl c.noFrame_nil
  | cons input rest ih =>
    cases moves : input.moves m with
    | true => exact .inr ⟨[], input, rest, rfl, moves, c.noFrame_nil⟩
    | false =>
      rw [reachesFrame, moves, Bool.not_false, Bool.true_and, Bool.or_eq_false_iff] at missed
      obtain ⟨unpresented, missed⟩ := missed
      rcases ih missed with none | ⟨between, mover, later, rfl, moves, none⟩
      · exact .inl (noFrame_cons unpresented none)
      · exact .inr ⟨input :: between, mover, later, rfl, moves, noFrame_cons unpresented none⟩

/-! ## The main statement -/

/-- **Every key is delivered once.**  A program that waits for keys is loaded.
Then keys go down and up, and the console is called, in any order.  Every frame
that this processes has room for a cycle.  The keys that the program gets are, in
order, one for each press of a bound key that a frame follows before another bound
key goes down or up.  Any other press of a bound key was replaced or cleared by
such a key before the next frame, or no frame followed. -/
theorem keys_delivered_once (waits : WaitsForKeys recorded) {c loaded : Console σ} {core : Core σ}
    {program : Bytes} (begun : c.load core program = (.ok (), loaded)) {m : Keymap}
    (keymap : loaded.devices.keypad.keymap = m) {inputs : List Input}
    (roomy : loaded.Throughout (fun d op => d.frameBudget? op ≠ some 0) (inputs.map Input.op)) :
    ∃ deliveries : List (Nat × KeyId),
      (∃ last, (loaded.given inputs).session.lastCore? = some last
        ∧ recorded last.state = recorded core.state ++ deliveries.map Prod.snd)
      ∧ (deliveries.map Prod.fst).Pairwise (· < ·)
      ∧ (∀ place id, (place, id) ∈ deliveries ↔ loaded.Delivered m inputs place id)
      ∧ ∀ earlier key later id, inputs = earlier ++ .press key :: later → m.id? key = some id →
        (earlier.length, id) ∉ deliveries →
        (loaded.given (earlier ++ [.press key])).NoFrame later
          ∨ ∃ between input rest, later = between ++ input :: rest ∧ input.moves m = true
            ∧ (loaded.given (earlier ++ [.press key])).NoFrame between := by
  have load := begun_of_load begun
  obtain ⟨memory, _, session⟩ := load.installed
  have left : loaded.session.lastCore? = some { core with memory } := by
    rw [session]
    rfl
  have unlatched : loaded.pending m inputs = [] := by
    rw [pending, load.keypad]
    split
    · rfl
    · rfl
  have members : ∀ place id, (place, id) ∈ loaded.deliveries m 0 inputs
      ↔ loaded.Delivered m inputs place id := by
    intro place id
    have member : (0 + place, id) ∈ loaded.deliveries m 0 inputs
      ↔ loaded.Delivered m inputs place id := mem_deliveries
    rwa [Nat.zero_add] at member
  obtain ⟨last, ended, records⟩ := recorded_given waits keymap left roomy 0
  rw [unlatched, List.nil_append] at records
  refine ⟨loaded.deliveries m 0 inputs, ⟨last, ended, records⟩,
    pairwise_deliveries m loaded 0 inputs, members, ?_⟩
  intro earlier key later id split bound unlisted
  refine noFrame_or_moved ?_
  rw [members] at unlisted
  rw [← Bool.not_eq_true, reachesFrame_iff]
  exact fun follows => unlisted ⟨earlier, key, later, split, rfl, bound, follows⟩

end Console

/-! ## A run with a key of each kind -/

/-- A core that does nothing but wait for keys. -/
structure KeyWaiter where
  /-- The keys it got. -/
  keys : List KeyId := []

namespace KeyWaiter

instance : Interpreter KeyWaiter where
  tick core := .done (.ok (), core)
  cycle core := .call .consumeKey fun
    | none => .done (.ok true, core)
    | some id => .done (.ok false, { core with state := ⟨core.state.keys ++ [id]⟩ })

theorem waitsForKeys : WaitsForKeys KeyWaiter.keys where
  cycle core := ⟨fun id => { core with state := ⟨core.state.keys ++ [id]⟩ }, fun _ => rfl, rfl⟩
  tick _ _ := ⟨rfl, rfl⟩

/-- Such a core, in a memory of the usual size. -/
def core : Core KeyWaiter := ⟨{}, Memory.zeros ramSize⟩

/-- A console whose session has not been called. -/
def waiting : Console KeyWaiter :=
  ((Console.ofDevices {} Scripted.untouched).load core []).2

/-- The first key is taken by the first frame.  The next is replaced by another,
which is taken.  The last is cleared by a release. -/
def inputs : List Input := [
  .press 'q', .refresh (Binary64.ofInt 0), .refresh (Binary64.ofInt 16),
  .press 'w', .press 'e', .release 'p', .refresh (Binary64.ofInt 20), .refresh (Binary64.ofInt 32),
  .press 'a', .release 'q', .refresh (Binary64.ofInt 48)]

end KeyWaiter

namespace Console

/-- The program gets two of the four keys. -/
theorem keys_delivered_once_waiting :
    ∃ deliveries : List (Nat × KeyId), deliveries.map Prod.snd = [4, 6]
      ∧ (deliveries.map Prod.fst).Pairwise (· < ·)
      ∧ ∀ place id, (place, id) ∈ deliveries
        ↔ KeyWaiter.waiting.Delivered Keymap.conventional KeyWaiter.inputs place id := by
  have begun : (Console.ofDevices {} Scripted.untouched).load KeyWaiter.core []
      = (.ok (), KeyWaiter.waiting) := eq_ok_of_failureOf (by decide +kernel)
  have keymap : KeyWaiter.waiting.devices.keypad.keymap = Keymap.conventional := by
    rw [(begun_of_load begun).keypad]
    rfl
  have roomy : KeyWaiter.waiting.Throughout (fun d op => d.frameBudget? op ≠ some 0)
      (KeyWaiter.inputs.map Input.op) := by
    decide +kernel
  have got : ((KeyWaiter.waiting.given KeyWaiter.inputs).session.lastCore?.map
      fun core => core.state.keys) = some [4, 6] := by
    decide +kernel
  obtain ⟨deliveries, ⟨last, ended, records⟩, ordered, members, _⟩ :=
    keys_delivered_once KeyWaiter.waitsForKeys begun keymap roomy
  refine ⟨deliveries, ?_, ordered, members⟩
  rw [ended, Option.map_some, Option.some.injEq] at got
  rw [← got, records]
  rfl

end Console

end Chip8Console
