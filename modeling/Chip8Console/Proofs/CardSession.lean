import Chip8Console.Proofs.CardPicture
import Chip8Console.Proofs.FailedLoads
import Chip8Console.Proofs.KeyDelivery
import Chip8Console.Proofs.Pacing
import Chip8Console.Proofs.Tones

/-!
# A session of the test card

The first cycle of a session draws the font.  Each later cycle wipes out the digit
below the font, if there is one, and draws that of the key it takes.  So after any
number of frames, and whatever the keys do in between, the plane is the picture for
the last key taken.  For that the test card has to remember which digit it drew,
and the digits in its memory must stay as they are.

Every cycle ends its frame.  So whatever a later cycle makes of the tone holds
right after its frame.

* `Routine.Takes`: what a routine comes to, and the keys it takes.
* `TestCard.takes_firstCycle`, `TestCard.takes_laterCycle`: the two kinds of cycles.
* `TestCard.Stands`, `TestCard.enter_cycle`: what holds between cycles, and what one
  cycle does.
* `Console.cardRefreshed`: all that a refresh can come to.
* `Console.showsCard_given`: runs.
* `Console.test_card_shows`: the main statement.
-/

namespace Chip8Console

/-! ## What a core does -/

/-- Before a speaker that never refuses a core turns the tone on and off as it likes. -/
theorem Devices.answer_sound {d : Devices} (willing : d.beeper.speaker.Willing) (on : Bool) :
    ∃ speaker, (d.answer (if on then .enableSound else .disableSound)).2
        = d.withBeeper ⟨speaker, on⟩ ∧ speaker.Willing := by
  cases on with
  | true =>
    obtain ⟨speaker, enabled, willing⟩ := Beeper.enable_of_willing willing
    refine ⟨speaker, ?_, willing⟩
    show (d.answer .enableSound).2 = d.withBeeper ⟨speaker, true⟩
    simp only [answer, enabled, parkError]
  | false =>
    obtain ⟨speaker, disabled, willing⟩ := Beeper.disable_of_willing willing
    refine ⟨speaker, ?_, willing⟩
    show (d.answer .disableSound).2 = d.withBeeper ⟨speaker, false⟩
    simp only [answer, disabled, parkError]

/-- The key that a core gets if it asks for the latched one. -/
def Exchange.key? : Exchange → Option KeyId
  | ⟨.consumeKey, answer⟩ => answer
  | _ => none

/-- The keys that a core takes in a visit, in order. -/
def Visit.keys (v : Visit) : List KeyId := v.exchanges.filterMap Exchange.key?

/-- A routine takes keys, ends with a result and leaves devices behind. -/
structure Routine.Takes {α : Type} (routine : Routine α) (d : Devices) (keys : List KeyId)
    (result : α) (after : Devices) : Prop where
  ran : routine.run d = (result, after)
  keys : (routine.exchanges d).filterMap Exchange.key? = keys

namespace Routine.Takes

variable {α β : Type} {d d' after : Devices} {keys later : List KeyId}

theorem done (result : α) (d : Devices) : (Routine.done result).Takes d [] result d := ⟨rfl, rfl⟩

theorem bind {routine : Routine α} {next : α → Routine β} {middle : α} {result : β}
    (h : routine.Takes d keys middle d') (h' : (next middle).Takes d' later result after) :
    (routine.bind next).Takes d (keys ++ later) result after where
  ran := by rw [run_bind, h.ran, h'.ran]
  keys := by rw [exchanges_bind, List.filterMap_append, h.keys, h.ran, h'.keys]

/-- A call that takes no key. -/
theorem call {c : DeviceCall} {next : c.Answer → Routine α} {result : α}
    (h : (next (d.answer c).1).Takes (d.answer c).2 keys result after)
    (other : c ≠ .consumeKey) : (Routine.call c next).Takes d keys result after where
  ran := h.ran
  keys := by
    have nothing : Exchange.key? ⟨c, (d.answer c).1⟩ = none := by
      cases c with
      | consumeKey => exact absurd rfl other
      | _ => rfl
    rw [exchanges, List.filterMap_cons_none nothing, h.keys]

/-- A call for the latched key. -/
theorem consume {next : Option KeyId → Routine α} {result : α}
    (h : (next d.keypad.latched).Takes { d with keypad := d.keypad.consume.2 } keys result after) :
    (Routine.call .consumeKey next).Takes d (d.keypad.latched.toList ++ keys) result after where
  ran := h.ran
  keys := by
    have answered : Exchange.key? ⟨.consumeKey, (d.answer .consumeKey).1⟩ = d.keypad.latched := rfl
    rw [exchanges, List.filterMap_cons, answered]
    have rest := h.keys
    cases d.keypad.latched with
    | none => exact rest
    | some id => exact congrArg (id :: ·) rest

end Routine.Takes

namespace TestCard

/-! ## Drawing -/

theorem flipAll_append (earlier later : List (UInt8 × UInt8)) :
    flipAll (earlier ++ later) = (flipAll earlier).bind fun _ => flipAll later := by
  induction earlier with
  | nil => rfl
  | cons pixel rest ih =>
    rw [List.cons_append, flipAll, ih]
    rfl

/-- Flips show on the back plane. -/
theorem takes_flipAll (pixels : List (UInt8 × UInt8)) (d : Devices) :
    (flipAll pixels).Takes d [] ()
      { d with screen := { d.screen with back := d.screen.back.toggleAll pixels } } := by
  induction pixels generalizing d with
  | nil => exact .done () d
  | cons pixel rest ih => exact .call (ih (d.answer (.togglePixel pixel.1 pixel.2)).2) nofun

section Drawing

variable {memory : Memory} (holds : HoldsFont memory)
include holds

theorem drawGlyph_eq (digit : KeyId) (place : UInt8 × UInt8) :
    drawGlyph memory digit place = flipAll (placed digit place) := by
  rw [drawGlyph, glyphPixels_of_holdsFont holds]
  rfl

theorem drawFont_eq (digits : List KeyId) :
    drawFont memory digits
      = flipAll (digits.flatMap fun digit => placed digit (fontPlace digit)) := by
  induction digits with
  | nil => rfl
  | cons digit rest ih =>
    rw [drawFont, drawGlyph_eq holds, ih, List.flatMap_cons, flipAll_append]

theorem drawKey_eq (shown : Option KeyId) : drawKey memory shown = flipAll (keyPixels shown) := by
  cases shown with
  | none => rfl
  | some digit => exact drawGlyph_eq holds digit keyPlace

end Drawing

/-! ## Cycles -/

variable {core : Core TestCard}

/-- The first cycle draws the font on a blank plane. -/
theorem takes_firstCycle (holds : HoldsFont core.memory) (d : Devices) :
    (firstCycle core).Takes d [] { core with state := { core.state with drawn := true } }
      { d with screen := { d.screen with back := picture none } } := by
  have font : drawFont core.memory (List.finRange 16) = flipAll fontPixels := drawFont_eq holds _
  rw [firstCycle, font, picture_none]
  exact .call ((takes_flipAll fontPixels _).bind (.done _ _)) nofun

theorem takes_anyDown (ids : List KeyId) (d : Devices) :
    (anyDown ids).Takes d [] (ids.any fun id => d.keypad.isDown (UInt8.ofNat id.val)) d := by
  induction ids with
  | nil => exact .done false d
  | cons id rest ih =>
    rw [anyDown, List.any_cons]
    refine .call ?_ nofun
    simp only [Devices.answer]
    cases d.keypad.isDown (UInt8.ofNat id.val) with
    | true => exact .done true d
    | false => exact ih

/-- Some key is held. -/
def someDown (p : Keypad) : Bool := (List.finRange 16).any fun id => p.isDown (UInt8.ofNat id.val)

theorem someDown_eq_true {p : Keypad} : someDown p = true ↔ ∃ byte, p.isDown byte = true := by
  rw [someDown, List.any_eq_true]
  constructor
  · rintro ⟨id, _, down⟩
    exact ⟨_, down⟩
  · rintro ⟨byte, down⟩
    obtain ⟨id, same, _⟩ := Keypad.isDown_eq_true.1 down
    refine ⟨id, List.mem_finRange id, ?_⟩
    rw [← same, UInt8.ofNat_toNat]
    exact down

/-- Then the tone follows the keys. -/
theorem takes_followKeys {d : Devices} (willing : d.beeper.speaker.Willing) :
    ∃ speaker, followKeys.Takes d [] () (d.withBeeper ⟨speaker, someDown d.keypad⟩)
      ∧ speaker.Willing := by
  obtain ⟨speaker, answered, willing⟩ := Devices.answer_sound willing (someDown d.keypad)
  refine ⟨speaker, ?_, willing⟩
  rw [← answered]
  refine (takes_anyDown (List.finRange 16) d).bind (.call (.done () _) ?_)
  cases (List.finRange 16).any fun id => d.keypad.isDown (UInt8.ofNat id.val) with
  | true => nofun
  | false => nofun

/-- Then the latched key takes the place of the one below the font. -/
theorem takes_showKey (holds : HoldsFont core.memory) {d : Devices}
    (drawn : d.screen.back = picture core.state.shown) :
    (showKey core).Takes d d.keypad.latched.toList
      { core with state := { core.state with shown := d.keypad.latched.or core.state.shown } }
      { d with
        keypad := d.keypad.consume.2
        screen := { d.screen with back := picture (d.keypad.latched.or core.state.shown) } } := by
  rw [← List.append_nil d.keypad.latched.toList]
  refine .consume ?_
  cases latched : d.keypad.latched with
  | none =>
    rw [Option.none_or, ← drawn]
    exact .done core _
  | some key =>
    rw [Option.some_or, ← picture_toggle core.state.shown, ← drawn]
    simp only [drawKey_eq holds]
    exact (takes_flipAll _ _).bind ((takes_flipAll _ _).bind (.done _ _))

/-- A later cycle does both. -/
theorem takes_laterCycle (holds : HoldsFont core.memory) {d : Devices}
    (willing : d.beeper.speaker.Willing) (drawn : d.screen.back = picture core.state.shown) :
    ∃ speaker, (followKeys.bind fun _ => showKey core).Takes d d.keypad.latched.toList
        { core with state := { core.state with shown := d.keypad.latched.or core.state.shown } }
        { d.withBeeper ⟨speaker, someDown d.keypad⟩ with
          keypad := d.keypad.consume.2
          screen := { d.screen with back := picture (d.keypad.latched.or core.state.shown) } }
      ∧ speaker.Willing := by
  obtain ⟨speaker, followed, willing⟩ := takes_followKeys willing
  refine ⟨speaker, ?_, willing⟩
  rw [← List.nil_append d.keypad.latched.toList]
  exact followed.bind (takes_showKey holds drawn)

/-! ## Machines -/

/-- The test card after so many cycles, with a digit below the font or without.
Nothing has failed and nothing will. -/
structure Stands (m : Machine TestCard) (cycles : Nat) (digit : Option KeyId) : Prop where
  unparked : m.devices.fault = none
  willing : m.devices.beeper.speaker.Willing
  font : HoldsFont m.core.memory
  drawn : m.core.state.drawn = decide (0 < cycles)
  shown : m.core.state.shown = digit
  back : m.devices.screen.back = if cycles = 0 then Plane.blank else picture digit
  /-- Before the first cycle there is no digit. -/
  undrawn : cycles = 0 → digit = none

/-- A cycle that leaves no fault asks to stop. -/
theorem enter_cycle_of_takes {m : Machine TestCard} {keys : List KeyId} {core : Core TestCard}
    {after : Devices} (took : (nextCycle m.core).Takes m.devices keys core after)
    (unparked : after.fault = none) :
    m.enter Entry.cycle.point = (.ok true, ⟨core, after⟩) ∧ (m.visit .cycle).keys = keys := by
  have cycled : (Entry.cycle.point m.core).Takes m.devices (keys ++ []) (.ok true, core) after :=
    took.bind (.done _ _)
  rw [List.append_nil] at cycled
  exact ⟨Machine.enter_of_unparked cycled.ran unparked, cycled.keys⟩

/-- One cycle.  It asks to stop.  The first takes no key, and each other takes the
latched one and makes the tone follow the keys. -/
theorem enter_cycle {m : Machine TestCard} {cycles : Nat} {digit : Option KeyId}
    (stands : Stands m cycles digit) :
    ∃ next, m.enter Entry.cycle.point = (.ok true, next)
      ∧ Stands next (cycles + 1) ((m.visit .cycle).keys.getLast?.or digit)
      ∧ (0 < cycles → next.devices.beeper.active = someDown next.devices.keypad) := by
  cases cycles with
  | zero =>
    have none_shown := stands.undrawn rfl
    subst none_shown
    have first : nextCycle m.core = firstCycle m.core := by
      rw [nextCycle, stands.drawn]
      rfl
    have took := takes_firstCycle stands.font m.devices
    rw [← first] at took
    obtain ⟨entered, keys⟩ := enter_cycle_of_takes took stands.unparked
    refine ⟨_, entered, ?_, fun some => absurd some (Nat.lt_irrefl 0)⟩
    rw [keys]
    exact ⟨stands.unparked, stands.willing, stands.font, rfl, stands.shown, rfl, nofun⟩
  | succ cycles =>
    have drawn : m.devices.screen.back = picture m.core.state.shown := by
      rw [stands.shown, stands.back, if_neg (Nat.succ_ne_zero cycles)]
    have later : nextCycle m.core = followKeys.bind fun _ => showKey m.core := by
      rw [nextCycle, stands.drawn]
      rfl
    obtain ⟨speaker, took, willing⟩ := takes_laterCycle stands.font stands.willing drawn
    rw [← later, stands.shown] at took
    obtain ⟨entered, keys⟩ := enter_cycle_of_takes took stands.unparked
    have last : (m.visit .cycle).keys.getLast? = m.devices.keypad.latched := by
      rw [keys]
      cases m.devices.keypad.latched with
      | none => rfl
      | some id => rfl
    rw [last]
    exact ⟨_, entered, ⟨stands.unparked, willing, stands.font, stands.drawn, rfl, rfl, nofun⟩,
      fun _ => rfl⟩

/-- The timers do nothing. -/
theorem enter_tick {m : Machine TestCard} (unparked : m.devices.fault = none) :
    m.enter Entry.tick.point = (.ok false, m) :=
  Machine.enter_of_unparked rfl unparked

/-- A frame without a budget. -/
theorem walk_timers {m : Machine TestCard} (unparked : m.devices.fault = none) :
    m.walk (frameSchedule 0) = ⟨[m.visit .tick], .ok false, m⟩ := by
  rw [frameSchedule, List.replicate_zero, Machine.walk_onward _ (enter_tick unparked),
    Machine.walk_nil]

/-- Any other frame has one cycle. -/
theorem walk_cycle {m next : Machine TestCard} (unparked : m.devices.fault = none)
    (entered : m.enter Entry.cycle.point = (.ok true, next)) (budget : Nat) :
    m.walk (frameSchedule (budget + 1)) = ⟨[m.visit .tick, m.visit .cycle], .ok true, next⟩ := by
  rw [frameSchedule, List.replicate_succ, Machine.walk_onward _ (enter_tick unparked),
    Machine.walk_stopped _ entered]

theorem Stands.present {m : Machine TestCard} {cycles : Nat} {digit : Option KeyId}
    (stands : Stands m cycles digit) : Stands m.present cycles digit :=
  ⟨stands.unparked, stands.willing, stands.font, stands.drawn, stands.shown, stands.back,
    stands.undrawn⟩

end TestCard

namespace Console

/-! ## Refreshes -/

/-- A refresh whose frame is a walk that does not fail. -/
theorem refresh_of_frame {σ : Type} [Interpreter σ] {c : Console σ} {core : Core σ}
    {time elapsed : Binary64} {visits : List Visit} {early : Bool} {last : Machine σ}
    (running : c.session = .running core) (due : c.pacer.due? time = some elapsed)
    (walked : (c.machine core).walk (frameSchedule (c.pacer.budget.cycles elapsed))
      = ⟨visits, .ok early, last⟩) :
    c.refresh time = (.ok (.frame (visits.length - 1) early),
        ⟨last.present.devices, { c.pacer with lastTime := some time }, .running last.core⟩)
      ∧ c.visits (.refresh time) = visits := by
  have framed := Pacer.refresh_of_due due (c.machine core)
  rw [Machine.frame_eq_walk, walked, machine] at framed
  refine ⟨?_, ?_⟩
  · simp only [refresh, running, framed]
    rfl
  · rw [visits_of_running running, Pacer.schedule_of_due due, walked]

/-- The test card runs and has come so far, and what is drawn is on display. -/
structure ShowsCard (c : Console TestCard) (cycles : Nat) (digit : Option KeyId) : Prop where
  stands : ∃ core, c.session = .running core ∧ TestCard.Stands (c.machine core) cycles digit
  front : c.devices.screen.front = c.devices.screen.back

/-- All that a refresh can come to for the test card.  It never fails. -/
inductive CardRefreshed (c : Console TestCard) (time : Binary64) (cycles : Nat)
    (digit : Option KeyId) : Prop
  /-- It is too early for a frame. -/
  | early {outcome : RefreshOutcome} {next : Console TestCard}
      (budget : c.frameBudget? (.refresh time) = none)
      (answer : c.refresh time = (.ok outcome, next)) (visits : c.visits (.refresh time) = [])
      (shows : next.ShowsCard cycles digit)
  /-- A frame without a budget only calls the timers. -/
  | timers {next : Console TestCard} {tick : Visit}
      (budget : c.frameBudget? (.refresh time) = some 0)
      (answer : c.refresh time = (.ok (.frame 0 false), next))
      (visits : c.visits (.refresh time) = [tick]) (tick_eq : tick.entry = .tick ∧ tick.keys = [])
      (shows : next.ShowsCard cycles digit)
  /-- Any other frame has one cycle. -/
  | cycle {more : Nat} {next : Console TestCard} {tick cycle : Visit}
      (budget : c.frameBudget? (.refresh time) = some (more + 1))
      (answer : c.refresh time = (.ok (.frame 1 true), next))
      (visits : c.visits (.refresh time) = [tick, cycle])
      (tick_eq : tick.entry = .tick ∧ tick.keys = []) (cycle_eq : cycle.entry = .cycle)
      (shows : next.ShowsCard (cycles + 1) (cycle.keys.getLast?.or digit))
      (tone : 0 < cycles →
        (next.devices.isSounding = true ↔ ∃ byte, next.devices.keypad.isDown byte = true))

theorem cardRefreshed {c : Console TestCard} {cycles : Nat} {digit : Option KeyId}
    (shows : c.ShowsCard cycles digit) (time : Binary64) : c.CardRefreshed time cycles digit := by
  obtain ⟨⟨core, running, stands⟩, front⟩ := shows
  cases due : c.pacer.due? time with
  | none =>
    have passed := Pacer.refresh_of_not_due due (c.machine core)
    have answer : c.refresh time
        = (.ok (c.pacer.pass time).1, ⟨c.devices, (c.pacer.pass time).2, .running core⟩) := by
      rw [machine] at passed
      simp only [refresh, running, passed]
    refine .early (by rw [frameBudget?, due, Option.map_none]) answer ?_
      ⟨⟨core, rfl, stands⟩, front⟩
    rw [visits_of_running running]
    exact Pacer.visits_of_not_due due _
  | some elapsed =>
    have roomy : c.frameBudget? (.refresh time) = some (c.pacer.budget.cycles elapsed) := by
      rw [frameBudget?, due, Option.map_some]
    cases budget : c.pacer.budget.cycles elapsed with
    | zero =>
      have walked := TestCard.walk_timers stands.unparked
      rw [← budget] at walked
      obtain ⟨answer, visits⟩ := refresh_of_frame running due walked
      rw [budget] at roomy
      exact .timers roomy answer visits ⟨rfl, rfl⟩ ⟨⟨core, rfl, stands.present⟩, rfl⟩
    | succ more =>
      obtain ⟨last, entered, stood, tone⟩ := TestCard.enter_cycle stands
      have walked := TestCard.walk_cycle stands.unparked entered more
      rw [← budget] at walked
      obtain ⟨answer, visits⟩ := refresh_of_frame running due walked
      rw [budget] at roomy
      refine .cycle roomy answer visits ⟨rfl, rfl⟩ rfl ⟨⟨last.core, rfl, stood.present⟩, rfl⟩ ?_
      intro later
      rw [← TestCard.someDown_eq_true]
      show last.devices.beeper.active = true ↔ TestCard.someDown last.devices.keypad = true
      rw [tone later]

/-! ## Runs -/

/-- The keys that the core takes in a run, in order. -/
def keysOf (c : Console TestCard) (ops : List (Op TestCard)) : List KeyId :=
  (c.visitsOf ops).flatMap Visit.keys

theorem keysOf_append (c : Console TestCard) (earlier later : List (Op TestCard)) :
    c.keysOf (earlier ++ later) = c.keysOf earlier ++ (c.after earlier).keysOf later := by
  rw [keysOf, visitsOf_append, List.flatMap_append]
  rfl

/-- Keys that go down or up between frames change nothing that is shown. -/
theorem ShowsCard.keypad {c : Console TestCard} {cycles : Nat} {digit : Option KeyId}
    (shows : c.ShowsCard cycles digit) (keypad : Keypad) :
    ShowsCard { c with devices := { c.devices with keypad } } cycles digit := by
  obtain ⟨⟨core, running, stands⟩, front⟩ := shows
  exact ⟨⟨core, running, ⟨stands.unparked, stands.willing, stands.font, stands.drawn, stands.shown,
    stands.back, stands.undrawn⟩⟩, front⟩

/-- One input. -/
theorem showsCard_perform {c : Console TestCard} {cycles : Nat} {digit : Option KeyId}
    (shows : c.ShowsCard cycles digit) (input : Input) :
    (c.perform input.op).2.ShowsCard (cycles + c.callsOf .cycle [input.op])
      ((c.keysOf [input.op]).getLast?.or digit) := by
  cases input with
  | press key => exact shows.keypad _
  | release key => exact shows.keypad _
  | refresh time =>
    have run : c.visitsOf [.refresh time] = c.visits (.refresh time) := List.append_nil _
    rw [Input.op, callsOf, keysOf, run, perform]
    cases cardRefreshed shows time with
    | early _ answer visits after =>
      rw [answer, visits]
      exact after
    | timers _ answer visits tick after =>
      rw [answer, visits]
      simpa [tick] using after
    | cycle _ answer visits tick cycle after _ =>
      rw [answer, visits]
      simpa [tick, cycle] using after

/-- Any inputs. -/
theorem showsCard_given {c : Console TestCard} {cycles : Nat} {digit : Option KeyId}
    (shows : c.ShowsCard cycles digit) (inputs : List Input) :
    (c.given inputs).ShowsCard (cycles + c.callsOf .cycle (inputs.map Input.op))
      ((c.keysOf (inputs.map Input.op)).getLast?.or digit) := by
  induction inputs generalizing c cycles digit with
  | nil => exact shows
  | cons input rest ih =>
    have after := ih (showsCard_perform shows input)
    have split : ((input :: rest).map Input.op : List (Op TestCard))
        = [input.op] ++ rest.map Input.op := rfl
    rw [split, callsOf_append, keysOf_append, List.getLast?_append, Option.or_assoc,
      ← Nat.add_assoc]
    exact after

/-- A load that succeeds shows nothing yet. -/
theorem showsCard_load {c loaded : Console TestCard} {program : Bytes}
    (unparked : c.devices.fault = none) (willing : c.devices.beeper.speaker.Willing)
    (done : c.load TestCard.core program = (.ok (), loaded)) : loaded.ShowsCard 0 none := by
  have begun := begun_of_load done
  obtain ⟨memory, written, session⟩ := begun.installed
  obtain ⟨speaker, disabled, granted⟩ := Beeper.disable_of_willing willing
  have beeper : loaded.devices.beeper = ⟨speaker, false⟩ := by rw [begun.beeper, disabled]
  refine ⟨⟨_, session, ?_⟩, by rw [begun.screen]; rfl⟩
  refine ⟨begun.fault.trans unparked, ?_, TestCard.holdsFont_of_install written, rfl, rfl, ?_,
    fun _ => rfl⟩
  · show loaded.devices.beeper.speaker.Willing
    rw [beeper]
    exact granted
  · show loaded.devices.screen.back = Plane.blank
    rw [begun.screen]
    rfl

/-- What refreshes do to a test card that has had so many cycles. -/
structure CardRuns (c : Console TestCard) (cycles : Nat) : Prop where
  /-- There is a session, and no refresh fails. -/
  running : c.isRunning = true
  succeeds : ∀ time, ∃ outcome, (c.refresh time).1 = .ok outcome
  /-- A frame with a budget has one cycle. -/
  one_cycle : ∀ time budget, c.frameBudget? (.refresh time) = some budget → 1 ≤ budget →
    (c.refresh time).1 = .ok (.frame 1 true)
      ∧ (c.visits (.refresh time)).map Visit.entry = [.tick, .cycle]
  /-- Right after a cycle that is not the first there is a tone if some key is held. -/
  tone : 1 ≤ cycles → ∀ time, .cycle ∈ (c.visits (.refresh time)).map Visit.entry →
    ((c.refresh time).2.devices.isSounding = true
      ↔ ∃ byte, (c.refresh time).2.devices.keypad.isDown byte = true)

theorem ShowsCard.runs {c : Console TestCard} {cycles : Nat} {digit : Option KeyId}
    (shows : c.ShowsCard cycles digit) : c.CardRuns cycles where
  running := by
    obtain ⟨core, running, _⟩ := shows.stands
    exact isRunning_iff.2 ⟨core, running⟩
  succeeds := by
    intro time
    cases cardRefreshed shows time with
    | early _ answer _ _ => exact ⟨_, by rw [answer]⟩
    | timers _ answer _ _ _ => exact ⟨_, by rw [answer]⟩
    | cycle _ answer _ _ _ _ _ => exact ⟨_, by rw [answer]⟩
  one_cycle := by
    intro time budget roomy enough
    cases cardRefreshed shows time with
    | early absent _ _ _ =>
      rw [absent] at roomy
      cases roomy
    | timers none_left _ _ _ _ =>
      rw [none_left] at roomy
      cases roomy
      exact absurd enough (Nat.not_succ_le_zero 0)
    | cycle _ answer visits tick cycle _ _ =>
      rw [answer, visits, List.map_cons, List.map_singleton, tick.1, cycle]
      exact ⟨rfl, rfl⟩
  tone := by
    intro later time cycled
    cases cardRefreshed shows time with
    | early _ _ visits _ =>
      rw [visits] at cycled
      cases cycled
    | timers _ _ visits tick _ =>
      rw [visits, List.map_singleton, tick.1] at cycled
      cases List.mem_singleton.1 cycled
    | cycle _ answer _ _ _ _ tone =>
      rw [answer]
      exact tone later

/-! ## The main statement -/

/-- **The test card shows the font and the last key.**  Load a test card with a
program that fits, while no fault is parked and before a speaker that never
refuses.  From then on let keys go down and up and the console be refreshed, in any
order and at any times.  The session goes on, no refresh fails, and a frame with a
budget has one cycle.  After the first cycle both planes have the sixteen digits of
the font, and below them the last key that was taken, and nothing else.  After each
other cycle there is a tone exactly if some key is held.  And no coordinate of a
digit exceeds a byte, whatever is in memory. -/
theorem test_card_shows {c : Console TestCard} {program : Bytes}
    (unparked : c.devices.fault = none) (willing : c.devices.beeper.speaker.Willing)
    (fits : programAddress.toNat + program.length ≤ ramSize) :
    ∃ loaded, c.load TestCard.core program = (.ok (), loaded)
      ∧ (∀ inputs : List Input,
          (loaded.given inputs).CardRuns (loaded.callsOf .cycle (inputs.map Input.op))
          ∧ (1 ≤ loaded.callsOf .cycle (inputs.map Input.op) →
              TestCard.Shows (loaded.keysOf (inputs.map Input.op)).getLast?
                (loaded.given inputs).devices.screen.back
              ∧ (loaded.given inputs).devices.screen.front
                = (loaded.given inputs).devices.screen.back))
      ∧ ∀ (memory : Memory) (digit : KeyId),
          (TestCard.fontPlace digit).1.toNat = 2 + 8 * (digit.val % 8)
          ∧ (TestCard.fontPlace digit).2.toNat = 4 + 8 * (digit.val / 8)
          ∧ TestCard.Exact memory digit (TestCard.fontPlace digit)
          ∧ TestCard.Exact memory digit TestCard.keyPlace := by
  have silenced : c.Silences := fun _ => willing.stop.1
  have fits_core : programAddress.toNat + program.length ≤ TestCard.core.memory.size := by
    rw [TestCard.core, Memory.size_zeros]
    exact fits
  have succeeded := load_ok_iff.2 ⟨silenced, fits_core⟩
  rcases done : c.load TestCard.core program with ⟨answer, loaded⟩
  rw [done] at succeeded
  cases succeeded
  refine ⟨loaded, rfl, ?_, ?_⟩
  · intro inputs
    have shows := showsCard_given (showsCard_load unparked willing done) inputs
    rw [Nat.zero_add, Option.or_none] at shows
    refine ⟨shows.runs, ?_⟩
    intro begun
    obtain ⟨core, _, stands⟩ := shows.stands
    have back := stands.back
    rw [if_neg (Nat.ne_of_gt begun)] at back
    refine ⟨?_, shows.front⟩
    show TestCard.Shows _ ((loaded.given inputs).machine core).devices.screen.back
    rw [back]
    exact TestCard.shows_picture _
  · intro memory digit
    obtain ⟨across, down⟩ := TestCard.fontPlace_eq digit
    exact ⟨across, down, TestCard.exact_of_onPlane (TestCard.onPlane_fontPlace digit) memory digit,
      TestCard.exact_of_onPlane TestCard.onPlane_keyPlace memory digit⟩

end Console

/-! ## Two keys one after the other -/

namespace TestCard

/-- A console that is about to show the card. -/
def idle : Console TestCard := Console.ofDevices {} Scripted.untouched

/-- Its session has begun. -/
def begun : Console TestCard := (idle.load core [0x12]).2

/-- The font is drawn, a key is shown, and another takes its place and goes up. -/
def inputs : List Input := [
  .refresh (.ofInt 0),
  .refresh (.ofInt 16),
  .press '1', .refresh (.ofInt 32),
  .press 'v', .release '1', .press 'v', .refresh (.ofInt 48),
  .refresh (.ofInt 52),
  .release 'v']

end TestCard

namespace Console

/-- The second key is shown alone, and the tone that it made ends with the next
cycle. -/
theorem test_card_shows_two_keys :
    TestCard.idle.load TestCard.core [0x12] = (.ok (), TestCard.begun)
      ∧ TestCard.begun.keysOf (TestCard.inputs.map Input.op) = [1, 15]
      ∧ TestCard.Shows (some 15) (TestCard.begun.given TestCard.inputs).devices.screen.front
      ∧ (TestCard.begun.given TestCard.inputs).devices.isSounding = true
      ∧ ((TestCard.begun.given TestCard.inputs).refresh (.ofInt 64)).2.devices.isSounding
        = false := by
  obtain ⟨loaded, done, card, _⟩ := @test_card_shows TestCard.idle [0x12] rfl ⟨nofun, nofun⟩
    (by decide)
  have same : TestCard.begun = loaded := by rw [TestCard.begun, done]
  rw [← same] at done card
  obtain ⟨cycles, keys, sounding, cycled, released⟩ :
      TestCard.begun.callsOf .cycle (TestCard.inputs.map Input.op) = 3
      ∧ TestCard.begun.keysOf (TestCard.inputs.map Input.op) = [1, 15]
      ∧ (TestCard.begun.given TestCard.inputs).devices.isSounding = true
      ∧ .cycle ∈ ((TestCard.begun.given TestCard.inputs).visits
          (.refresh (.ofInt 64))).map Visit.entry
      ∧ TestCard.someDown ((TestCard.begun.given TestCard.inputs).refresh
          (.ofInt 64)).2.devices.keypad = false := by decide +kernel
  obtain ⟨runs, shown⟩ := card TestCard.inputs
  rw [cycles] at runs shown
  rw [keys] at shown
  obtain ⟨back, front⟩ := shown (by decide)
  have tone := runs.tone (by decide) _ cycled
  rw [← TestCard.someDown_eq_true, released] at tone
  refine ⟨done, keys, ?_, sounding, by simpa using tone⟩
  rw [front]
  exact back

end Console

end Chip8Console
