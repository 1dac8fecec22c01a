import Chip8Console.Proofs.Alike
import Chip8Console.Proofs.InstalledImages
import Chip8Console.Proofs.Keymaps

/-!
# Sessions are isolated

Whatever was done to a console, a load that succeeds makes it a new one with the
same choices and the same key bindings.  Three things are excepted: what random
source and speaker are about to answer, and a fault that is parked.  If these
agree as well nobody will ever tell the two consoles apart.

* `Console.after_keeps`: what no operation changes.
* `Console.load_isolates`: the main statement.
-/

namespace Chip8Console

universe u

theorem Pacer.cancel_cancel (p : Pacer) : p.cancel.cancel = p.cancel := rfl

namespace Console

variable {σ : Type u}

/-! ## What no operation changes -/

variable [Interpreter σ]

/-- A refresh changes at most the recorded time. -/
theorem pacer_refresh (c : Console σ) (time : Binary64) :
    (c.refresh time).2.pacer.cancel = c.pacer.cancel := by
  cases running : c.session with
  | none => simp only [refresh, running]
  | finished core => simp only [refresh, running]
  | running core =>
    have kept : (c.pacer.refresh time ⟨core, c.devices⟩).2.1.cancel = c.pacer.cancel := by
      cases due : c.pacer.due? time with
      | none =>
        rw [Pacer.refresh_of_not_due due, Pacer.pass]
        split
        · rfl
        · rfl
      | some elapsed =>
        rw [Pacer.refresh_of_due due]
        rfl
    simp only [refresh, running]
    generalize c.pacer.refresh time ⟨core, c.devices⟩ = done at kept ⊢
    obtain ⟨answer, pacer, m⟩ := done
    cases answer with
    | ok outcome => exact kept
    | error failure =>
      show (shutDown _).pacer.cancel = _
      rw [pacer_shutDown]
      exact kept

theorem pacer_perform (c : Console σ) (op : Op σ) :
    (c.perform op).2.pacer.cancel = c.pacer.cancel := by
  cases op with
  | load core program =>
    exact (congrArg Pacer.cancel (c.pacer_load core program)).trans c.pacer.cancel_cancel
  | loadFrom core source =>
    rw [perform, loadFrom]
    cases source.readAll with
    | error failure => rfl
    | ok program =>
      exact (congrArg Pacer.cancel (c.pacer_load core program)).trans c.pacer.cancel_cancel
  | refresh time => exact c.pacer_refresh time
  | stop => exact (congrArg Pacer.cancel c.pacer_stop).trans c.pacer.cancel_cancel
  | devices op => rfl

omit [Interpreter σ] in
theorem across_diagnostics : Devices.Across fun d e => e.diagnostics = d.diagnostics where
  trans := fun first second => second.trans first
  answer := Devices.diagnostics_answer
  collect := fun _ => rfl
  silence := fun _ => rfl
  others := fun _ _ _ _ => rfl

/-- The choices of a console are never changed. -/
theorem after_keeps (c : Console σ) (ops : List (Op σ)) :
    (c.after ops).pacer.cancel = c.pacer.cancel
      ∧ (c.after ops).devices.diagnostics = c.devices.diagnostics := by
  constructor
  · exact after_induction (P := fun d => d.pacer.cancel = c.pacer.cancel)
      (fun d op before => (d.pacer_perform op).trans before) rfl ops
  · exact across_diagnostics.after c ops

omit [Interpreter σ]

/-! ## A load leaves nothing of the past -/

/-- Nothing is held, latched, drawn, sounding or recorded, and the core is the
given one with nothing but the two images written into it. -/
structure CleanStart (c : Console σ) (core : Core σ) (program : Bytes) : Prop where
  held : c.devices.keypad.heldIds = []
  latched : c.devices.keypad.latched = none
  back : c.devices.screen.back = Plane.blank
  front : c.devices.screen.front = Plane.blank
  silent : c.devices.isSounding = false
  idle : c.pacer.isIdle = true
  core : ∃ memory : Memory, c.session = .running { core with memory }
    ∧ memory.size = core.memory.size ∧ ∀ address, memory.byte? address
      = if programAddress.toNat ≤ address ∧ address < programAddress.toNat + program.length
        then program[address - programAddress.toNat]?
        else if fontAddress.toNat ≤ address ∧ address < fontAddress.toNat + font.length
        then font[address - fontAddress.toNat]?
        else core.memory.byte? address

theorem Begun.cleanStart {c loaded : Console σ} {core : Core σ} {program : Bytes}
    (h : c.Begun core program loaded) : loaded.CleanStart core program where
  held := by
    rw [h.keypad]
    rfl
  latched := by rw [h.keypad, Keypad.reset]
  back := by rw [h.screen, Screen.blank]
  front := by rw [h.screen, Screen.blank]
  silent := by rw [Devices.isSounding, h.beeper, Beeper.active_disable]
  idle := by
    rw [h.pacer]
    rfl
  core := by
    obtain ⟨memory, written, session⟩ := h.installed
    exact ⟨memory, session, Memory.byte?_install written⟩

/-- Two loads of the same program into the same core end alike, up to what
speaker and random source have in store, the parked fault, and the log. -/
theorem Begun.eq {c d loaded started : Console σ} {core : Core σ} {program : Bytes}
    (h₁ : c.Begun core program loaded) (h₂ : d.Begun core program started)
    (pacer : c.pacer.cancel = d.pacer.cancel)
    (keypad : c.devices.keypad.reset = d.devices.keypad.reset)
    (diagnostics : c.devices.diagnostics = d.devices.diagnostics) :
    loaded = { started with
      devices := { started.devices with
        beeper := ⟨loaded.devices.beeper.speaker, started.devices.beeper.active⟩
        random := loaded.devices.random
        fault := loaded.devices.fault
        log := loaded.devices.log } } := by
  obtain ⟨memory, written, session₁⟩ := h₁.installed
  obtain ⟨memory', written', session₂⟩ := h₂.installed
  rw [written] at written'
  cases written'
  have sessions : loaded.session = started.session := by rw [session₁, session₂]
  have pacers : loaded.pacer = started.pacer := by rw [h₁.pacer, h₂.pacer, pacer]
  have keypads : loaded.devices.keypad = started.devices.keypad := by
    rw [h₁.keypad, h₂.keypad, keypad]
  have screens : loaded.devices.screen = started.devices.screen := by rw [h₁.screen, h₂.screen]
  have switches : loaded.devices.beeper.active = started.devices.beeper.active := by
    rw [h₁.beeper, h₂.beeper, Beeper.active_disable, Beeper.active_disable]
  have shown : loaded.devices.diagnostics = started.devices.diagnostics := by
    rw [h₁.diagnostics, h₂.diagnostics, diagnostics]
  obtain ⟨⟨_, _, ⟨_, _⟩, _, _, _, _⟩, _, _⟩ := loaded
  obtain ⟨⟨_, _, ⟨_, _⟩, _, _, _, _⟩, _, _⟩ := started
  cases sessions
  cases pacers
  cases keypads
  cases screens
  cases switches
  cases shown
  rfl

end Console

/-! ## A session after another -/

namespace Scripted

/-- A session with a key held and the tone on. -/
def busy : List (Console.Op Scripted) := [
  .load (core [.call .enableSound fun _ => .done (.ok false)]) [0x12, 0x00],
  .devices (.keypad (.press 'w')),
  .refresh (Binary64.ofInt 0),
  .refresh (Binary64.ofInt 16)]

/-- The console that starts another session after it. -/
def reloaded : Console Scripted :=
  (((Console.ofDevices {} untouched).after busy).load (core []) []).2

theorem load_reloaded :
    ((Console.ofDevices {} untouched).after busy).load (core []) [] = (.ok (), reloaded) :=
  eq_ok_of_failureOf (by decide +kernel)

theorem speaker_reloaded : reloaded.devices.beeper.speaker.Alike {} := by
  have beeps : reloaded.devices.beeper.speaker.beepAnswers = [] := by decide +kernel
  have stops : reloaded.devices.beeper.speaker.stopAnswers = [] := by decide +kernel
  constructor
  · intro i
    rw [beeps]
  · intro i
    rw [stops]

end Scripted

/-! ## Key bindings in use -/

/-- The same choices with key bindings that are in use. -/
def Config.rebound (config : Config) (keymap : Keymap) (diagnostics : Bool) : Config :=
  { config with keymap := keymap.toList, diagnostics }

namespace Console

variable {σ : Type u}

theorem new_rebound (config : Config) (keymap : Keymap) (diagnostics : Bool) (speaker : Speaker)
    (random : Random) :
    new (config.rebound keymap diagnostics) speaker random = .ok (ofDevices (σ := σ) config
      { keypad := { keymap }, beeper := { speaker }, random, diagnostics }) := by
  rw [new, Keypad.ofList, Config.rebound, Keymap.ofList_toList]
  rfl

/-! ## Nobody can tell -/

variable [Interpreter σ]

/-- After whatever is done to both consoles, the same is drawn.  And whatever is
done next, it is answered the same, and cores are entered the same way and meet
the same. -/
def Indistinguishable (c d : Console σ) : Prop :=
  ∀ ops, (c.after ops).devices.screen = (d.after ops).devices.screen
    ∧ ∀ op, ((c.after ops).perform op).1 = ((d.after ops).perform op).1
      ∧ (c.after ops).visits op = (d.after ops).visits op

theorem Alike.indistinguishable {c d : Console σ} (h : c.Alike d) : c.Indistinguishable d := by
  intro ops
  have still := after_alike h ops
  refine ⟨still.devices.screen, ?_⟩
  intro op
  obtain ⟨visits, step⟩ := perform_alike still op
  exact ⟨step.answer, visits⟩

/-- **Sessions are isolated.**  Take a load that succeeds in any history of a
console.  It makes a clean start and keeps the key bindings.  A new console with
the same choices and key bindings can be loaded as well, whatever speaker and
random source it has, and then the two are equal up to these, the parked fault
and the log.  If nothing is parked, and speakers and random sources answer alike
from there on, they cannot be told apart. -/
theorem load_isolates {config : Config} {devices : Devices} {history : List (Op σ)}
    {core : Core σ} {program : Bytes} {loaded : Console σ}
    (done : ((ofDevices config devices).after history).load core program = (.ok (), loaded))
    (speaker : Speaker) (random : Random) :
    loaded.CleanStart core program
      ∧ loaded.devices.keypad.keymap
        = ((ofDevices config devices).after history).devices.keypad.keymap
      ∧ ∃ fresh started : Console σ,
        new (config.rebound loaded.devices.keypad.keymap devices.diagnostics) speaker random
          = .ok fresh
        ∧ fresh.load core program = (.ok (), started)
        ∧ loaded = { started with
            devices := { started.devices with
              beeper := ⟨loaded.devices.beeper.speaker, started.devices.beeper.active⟩
              random := loaded.devices.random
              fault := loaded.devices.fault
              log := loaded.devices.log } }
        ∧ started.devices.beeper.speaker = speaker
        ∧ started.devices.random = random
        ∧ started.devices.fault = none
        ∧ (loaded.devices.fault = none → loaded.devices.beeper.speaker.Alike speaker →
            loaded.devices.random.Alike random → loaded.Indistinguishable started) := by
  have begun := begun_of_load done
  obtain ⟨pacer, diagnostics⟩ := (ofDevices config devices).after_keeps history
  obtain ⟨memory, written, _⟩ := begun.installed
  have built := new_rebound (σ := σ) config loaded.devices.keypad.keymap devices.diagnostics
    speaker random
  generalize fresh_eq : ofDevices (σ := σ) config
    { keypad := { keymap := loaded.devices.keypad.keymap }, beeper := { speaker },
      random, diagnostics := devices.diagnostics } = fresh at built
  have silenced : fresh.devices.beeper.disable.1 = .ok () := by
    rw [← fresh_eq]
    rfl
  obtain ⟨started, again⟩ := load_of_silenced silenced written
  have begun' := begun_of_load again
  have keypads : ((ofDevices config devices).after history).devices.keypad.reset
      = fresh.devices.keypad.reset := by
    rw [← fresh_eq, begun.keypad]
    rfl
  have same := begun.eq begun' (by rw [pacer, ← fresh_eq]; rfl) keypads
    (by rw [diagnostics, ← fresh_eq]; rfl)
  have speakers : started.devices.beeper.speaker = speaker := by
    rw [begun'.beeper, ← fresh_eq]
    rfl
  have sources : started.devices.random = random := by
    rw [begun'.random, ← fresh_eq]
    rfl
  have unparked : started.devices.fault = none := by
    rw [begun'.fault, ← fresh_eq]
    rfl
  have bindings : loaded.devices.keypad.keymap
      = ((ofDevices config devices).after history).devices.keypad.keymap := by
    rw [begun.keypad]
    rfl
  refine ⟨begun.cleanStart, bindings, fresh, started, built, again, same, speakers, sources,
    unparked, ?_⟩
  intro parked answers bytes
  refine Alike.indistinguishable ⟨⟨?_, ?_, ⟨?_, ?_⟩, ?_, ?_, ?_⟩, ?_, ?_⟩
  · exact congrArg (fun c => c.devices.keypad) same
  · exact congrArg (fun c => c.devices.screen) same
  · exact congrArg (fun c => c.devices.beeper.active) same
  · rw [speakers]
    exact answers
  · rw [sources]
    exact bytes
  · exact congrArg (fun c => c.devices.diagnostics) same
  · rw [parked, unparked]
  · exact congrArg (fun c => c.pacer) same
  · exact congrArg (fun c => c.session) same

/-- A session after a busy one is like one of a console that is new. -/
theorem load_isolates_busy :
    ∃ fresh started : Console Scripted,
      new (Config.rebound {} Scripted.reloaded.devices.keypad.keymap false) {}
          Scripted.reloaded.devices.random = .ok fresh
        ∧ fresh.load (Scripted.core []) [] = (.ok (), started)
        ∧ Scripted.reloaded.Indistinguishable started := by
  obtain ⟨_, _, fresh, started, built, again, _, _, _, _, alike⟩ :=
    load_isolates Scripted.load_reloaded {} Scripted.reloaded.devices.random
  exact ⟨fresh, started, built, again,
    alike (by decide +kernel) Scripted.speaker_reloaded (.refl _)⟩

end Console

end Chip8Console
