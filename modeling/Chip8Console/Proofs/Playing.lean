import Chip8Console.Proofs.Redraws

/-!
# The end of a play

A play goes on round by round, each on what the rounds before it left.  It ends in
the first round with a request to quit, without a session, or with a failure of the
refresh or of the display.  However it ends, the session is over then.  The result
tells why it ended, and never that the tone could not be stopped.

A round with a request to quit does nothing but take in its events.  What the core
or the display would have done has no bearing on it.  Any other round refreshes the
console, also the last.

* `Round.AsksToQuit`: a request to quit, wherever it stands among the events.
* `Play.Ends`: why a round is the last, and with which result.
* `Play.Quits`, `Play.Plays`: what a round leaves, with a request to quit and without.
* `Play.comes`: what one round comes to.
* `Play.Leads`: rounds that lead from one play to another, step by step.
* `Play.run_eq_more_iff`, `Play.run_eq_finished_iff`: a run is such steps.
* `Play.run_leaves_stopped`: the main statement.
-/

namespace Chip8Console

universe u v

/-! ## Requests to quit -/

/-- Escape, or a small `c` with the control key. -/
def KeyEvent.AsksToQuit (event : KeyEvent) : Prop :=
  event.code = .escape ∨ event.code = .char 'c' ∧ event.control = true

theorem KeyEvent.meaning_eq_quit {event : KeyEvent} :
    event.meaning = .quit ↔ event.AsksToQuit := by
  unfold meaning AsksToQuit
  cases event.code with
  | char c => simp
  | _ => simp

theorem KeyTracker.handle_eq_quit {t : KeyTracker} {p : Keypad} {event : KeyEvent} {now : Nat} :
    (t.handle p event now).1 = .quit ↔ event.AsksToQuit := by
  rw [← KeyEvent.meaning_eq_quit, handle]
  cases event.meaning with
  | quit => simp
  | nothing => simp
  | typed key =>
    cases seen : t.seenAt? key with
    | some time => simp [seen]
    | none =>
      rcases pressed : p.press key with ⟨bound, p'⟩
      cases bound with
      | true => simp [seen, pressed]
      | false => simp [seen, pressed]

/-- A request to quit is noticed wherever it stands. -/
theorem KeyTracker.quit_mem_handleAll {t : KeyTracker} {p : Keypad}
    {events : List (Nat × TerminalEvent)} :
    .quit ∈ (t.handleAll p events).1
      ↔ ∃ now event, (now, .key event) ∈ events ∧ event.AsksToQuit := by
  induction events generalizing t p with
  | nil => simp [handleAll]
  | cons first rest ih =>
    obtain ⟨now, first⟩ := first
    cases first with
    | mouse =>
      rw [handleAll, ih]
      simp
    | resize columns rows =>
      rw [handleAll, ih]
      simp
    | key event =>
      have outcomes : (t.handleAll p ((now, .key event) :: rest)).1
          = (t.handle p event now).1 :: ((t.handle p event now).2.1.handleAll
            (t.handle p event now).2.2 rest).1 := rfl
      rw [outcomes, List.mem_cons, ih, eq_comm, handle_eq_quit]
      constructor
      · rintro (asks | ⟨later, other, listed, asks⟩)
        · exact ⟨now, event, List.mem_cons_self, asks⟩
        · exact ⟨later, other, List.mem_cons_of_mem _ listed, asks⟩
      · rintro ⟨later, other, listed, asks⟩
        rcases List.mem_cons.1 listed with same | listed
        · cases same
          exact .inl asks
        · exact .inr ⟨later, other, listed, asks⟩

/-- Some event of the round asks to quit. -/
def Round.AsksToQuit (round : Round) : Prop :=
  ∃ now event, (now, .key event) ∈ round.events ∧ event.AsksToQuit

namespace Console

variable {σ : Type u}

theorem over_shutDown (c : Console σ) : c.shutDown.Over := by
  obtain ⟨entries, same⟩ := c.shutDown_eq
  rw [same]
  exact c.over_stop.report entries

/-- A refresh fails with what ended its walk, and not with a tone that goes on. -/
theorem refresh_error_iff [Interpreter σ] {c : Console σ} {time : Binary64} {failure : Failure} :
    (c.refresh time).1 = .error failure
      ↔ ∃ core, c.session = .running core
        ∧ ((c.machine core).walk (c.pacer.schedule time)).outcome = .error failure := by
  constructor
  · intro failed
    have on : c.isRunning = true := by
      rw [← Bool.not_eq_false, ← c.refresh_stopped_iff time, failed]
      nofun
    obtain ⟨core, running⟩ := isRunning_iff.1 on
    refine ⟨core, running, ?_⟩
    cases ended : ((c.machine core).walk (c.pacer.schedule time)).outcome with
    | ok early =>
      obtain ⟨outcome, _, answered, _⟩ := refresh_of_walk_ok running ended
      rw [answered] at failed
      cases failed
    | error other =>
      obtain ⟨_, _, _, _, step⟩ := refresh_of_walk_error running ended
      rw [step] at failed
      cases failed
      rfl
  · rintro ⟨core, running, ended⟩
    obtain ⟨_, _, _, _, step⟩ := refresh_of_walk_error running ended
    rw [step]

end Console

namespace Play

variable {σ : Type u} {δ : Type v}

/-! ## Taking in events -/

theorem quit_mem_takeIn {play : Play σ δ} {round : Round} :
    .quit ∈ (play.takeIn round).1 ↔ round.AsksToQuit :=
  KeyTracker.quit_mem_handleAll

/-- What is left once the events of a round are taken in, and the keys released that
have expired.  For the rest there may be more in the log. -/
structure TakesIn (play : Play σ δ) (round : Round) (taken : Play σ δ) : Prop where
  tracker : taken.tracker
    = (play.tracker.drain play.console.devices.keypad round.events round.expiry).2.1
  keypad : taken.console.devices.keypad
    = (play.tracker.drain play.console.devices.keypad round.events round.expiry).2.2
  others : ∃ log, taken = { play with
    tracker := taken.tracker
    console.devices :=
      { play.console.devices with keypad := taken.console.devices.keypad, log } }

theorem takesIn (play : Play σ δ) (round : Round) : play.TakesIn round (play.takeIn round).2 :=
  ⟨rfl, rfl, _, rfl⟩

/-! ## One round -/

/-- What a round leaves that does nothing but take in its events and stop. -/
structure Quits (play : Play σ δ) (round : Round) (last : Play σ δ) : Prop where
  tracker : last.tracker
    = (play.tracker.drain play.console.devices.keypad round.events round.expiry).2.1
  session : last.console.session = play.console.session.finish
  screen : last.console.devices.screen = play.console.devices.screen
  random : last.console.devices.random = play.console.devices.random
  beeper : last.console.devices.beeper = play.console.devices.beeper.disable.2
  display : last.display = play.display

theorem quits_finish (play : Play σ δ) (round : Round) (entries : List LogEntry) :
    play.Quits round { (play.takeIn round).2 with
      console := ((play.takeIn round).2.console.report entries).shutDown } := by
  obtain ⟨tracker, _, _, same⟩ := play.takesIn round
  obtain ⟨said, stopped⟩ := ((play.takeIn round).2.console.report entries).shutDown_eq
  rw [stopped, same]
  exact ⟨tracker, Console.session_stop _, Console.screen_stop _, Console.random_stop _,
    Console.beeper_stop _, rfl⟩

section Step

variable [Interpreter σ] [Display δ]

/-- What a round leaves that refreshes the console.  The display is handed the plane
that this presents, if it presents one. -/
structure Plays (play : Play σ δ) (round : Round) (left : Play σ δ) : Prop where
  unasked : ¬ round.AsksToQuit
  taken : play.TakesIn round (play.takeIn round).2
  tracker : left.tracker = (play.takeIn round).2.tracker
  console : left.console = ((play.takeIn round).2.console.refresh round.time).2
  display : left.display
    = Display.showAll play.display ((play.takeIn round).2.console.presented? round.time).toList

/-- A request to quit comes before everything else. -/
theorem step_of_quit (play : Play σ δ) {round : Round} (asked : round.AsksToQuit) :
    play.step round
      = .finished (.ok ()) { (play.takeIn round).2 with
          console :=
            ((play.takeIn round).2.console.report [⟨.info, "quit requested"⟩]).shutDown } := by
  have asks : .quit ∈ (play.takeIn round).1 := quit_mem_takeIn.2 asked
  rcases taken : play.takeIn round with ⟨outcomes, after⟩
  rw [taken] at asks
  simp only [step, taken, if_pos asks, finish]

/-- Any other round goes on to the console and the display, and does what they answer. -/
theorem step_of_not_quit (play : Play σ δ) {round : Round} (unasked : ¬ round.AsksToQuit) :
    ∃ answer left, play.Plays round left
      ∧ (play.takeIn round).2.console.Answers play.display round.time answer
      ∧ play.step round = match answer with
        | .ok .goOn => .more left
        | .ok .finish => left.finish (.ok ())
        | .error failure => left.finish (.error failure) := by
  have asks : .quit ∉ (play.takeIn round).1 := mt quit_mem_takeIn.1 unasked
  obtain ⟨answer, display, redrawn, came⟩ :=
    (play.takeIn round).2.console.redrawn play.display round.time
  refine ⟨answer, { (play.takeIn round).2 with
    console := ((play.takeIn round).2.console.refresh round.time).2, display },
    ⟨unasked, play.takesIn round, rfl, rfl, came.display_eq⟩, came.answers, ?_⟩
  have stepped : play.step round
      = let done := (play.takeIn round).2.console.redraw play.display round.time
        let left := { (play.takeIn round).2 with console := done.2.1, display := done.2.2 }
        match done.1 with
        | .ok .goOn => .more left
        | .ok .finish => left.finish (.ok ())
        | .error failure => left.finish (.error failure) := if_neg asks
  rw [stepped, redrawn]

/-- Why a round is the last, and with which result. -/
inductive Ends (play : Play σ δ) (round : Round) : Except Failure Unit → Prop where
  /-- An event asks to quit. -/
  | quit (asked : round.AsksToQuit) : Ends play round (.ok ())
  /-- There is no session. -/
  | noSession (unasked : ¬ round.AsksToQuit) (off : play.console.isRunning = false) :
      Ends play round (.ok ())
  /-- The core fails, or the speaker while it plays, once the events are taken in. -/
  | refresh {core : Core σ} {failure : Failure} (unasked : ¬ round.AsksToQuit)
      (running : play.console.session = .running core)
      (failed : (((play.takeIn round).2.console.machine core).walk
        ((play.takeIn round).2.console.pacer.schedule round.time)).outcome = .error failure) :
      Ends play round (.error failure)
  /-- The display fails to show the plane that the refresh presents. -/
  | display {plane : Plane} {text : String} (unasked : ¬ round.AsksToQuit)
      (presented : (play.takeIn round).2.console.presented? round.time = some plane)
      (unshown : (Display.draw play.display plane).1 = .error text) :
      Ends play round (.error (.io text))

/-- All that a round can come to. -/
inductive Comes (play : Play σ δ) (round : Round) : Step σ δ → Prop where
  /-- Nothing ends the play. -/
  | more {next : Play σ δ} (plays : play.Plays round next)
      (on : ∀ result, ¬ play.Ends round result) : Comes play round (.more next)
  /-- There is a request to quit. -/
  | quit {last : Play σ δ} (asked : round.AsksToQuit) (quits : play.Quits round last)
      (gone : last.console.Over) : Comes play round (.finished (.ok ()) last)
  /-- Something else ends the play, and nothing is left of the session. -/
  | closed {result : Except Failure Unit} {left : Play σ δ} (plays : play.Plays round left)
      (ended : play.Ends round result) :
      Comes play round (.finished result { left with console := left.console.shutDown })

theorem comes (play : Play σ δ) (round : Round) : play.Comes round (play.step round) := by
  by_cases asked : round.AsksToQuit
  · rw [step_of_quit play asked]
    exact .quit asked (play.quits_finish round _) (Console.over_shutDown _)
  · obtain ⟨answer, left, plays, ⟨finish_iff, error_iff, goOn_iff⟩, stepped⟩ :=
      step_of_not_quit play asked
    rw [stepped]
    cases answer with
    | error failure =>
      refine .closed plays ?_
      rcases (error_iff failure).1 rfl with failed | ⟨plane, text, presented, unshown, rfl⟩
      · obtain ⟨core, running, failed⟩ := Console.refresh_error_iff.1 failed
        exact .refresh asked running failed
      · exact .display asked presented unshown
    | ok progress =>
      cases progress with
      | finish => exact .closed plays (.noSession asked (finish_iff.1 rfl))
      | goOn =>
        obtain ⟨on, sound⟩ := goOn_iff.1 rfl
        refine .more plays fun result ended => ?_
        cases ended with
        | quit asks => exact asked asks
        | noSession _ off => exact Bool.false_ne_true (off.symm.trans on)
        | refresh _ running failed =>
          exact sound _ (.inl (Console.refresh_error_iff.2 ⟨_, running, failed⟩))
        | display _ presented unshown => exact sound _ (.inr ⟨_, _, presented, unshown, rfl⟩)

/-- A round after which there is more to play. -/
theorem comes_more {play next : Play σ δ} {round : Round} (stepped : play.step round = .more next) :
    play.Plays round next ∧ ∀ result, ¬ play.Ends round result := by
  have came := play.comes round
  rw [stepped] at came
  cases came with
  | more plays on => exact ⟨plays, on⟩

/-- A last round. -/
theorem comes_finished {play last : Play σ δ} {round : Round} {result : Except Failure Unit}
    (ended : play.step round = .finished result last) :
    last.console.Over ∧ play.Ends round result
      ∧ (round.AsksToQuit → play.Quits round last)
      ∧ (¬ round.AsksToQuit → ∃ left, play.Plays round left
        ∧ last = { left with console := left.console.shutDown }) := by
  have came := play.comes round
  rw [ended] at came
  cases came with
  | quit asked quits gone =>
    exact ⟨gone, .quit asked, fun _ => quits, fun unasked => absurd asked unasked⟩
  | closed plays reason =>
    exact ⟨Console.over_shutDown _, reason, fun asked => absurd asked plays.unasked,
      fun _ => ⟨_, plays, rfl⟩⟩

omit [Interpreter σ] [Display δ] in
/-- A round that asks to quit comes to the same whatever the core and the display
do. -/
theorem step_congr_of_quit (core other : Interpreter σ) (draws shows : Display δ)
    (play : Play σ δ) {round : Round} (asked : round.AsksToQuit) :
    @step σ δ core draws play round = @step σ δ other shows play round := by
  rw [@step_of_quit σ δ core draws play round asked, @step_of_quit σ δ other shows play round asked]

theorem Ends.ok_iff {play : Play σ δ} {round : Round} {result : Except Failure Unit}
    (ended : play.Ends round result) :
    result = .ok () ↔ round.AsksToQuit ∨ play.console.isRunning = false := by
  cases ended with
  | quit asked => exact iff_of_true rfl (.inl asked)
  | noSession _ off => exact iff_of_true rfl (.inr off)
  | refresh unasked running failed =>
    have on := Console.isRunning_iff.2 ⟨_, running⟩
    exact iff_of_false nofun (by simp [unasked, on])
  | display unasked presented unshown =>
    have on : play.console.isRunning = true := (Console.running_of_presented presented).1
    exact iff_of_false nofun (by simp [unasked, on])

/-! ## Step by step -/

/-- Some rounds lead from one play to another, each on what the one before left. -/
inductive Leads : Play σ δ → List Round → Play σ δ → Prop where
  /-- Without a round a play is where it was. -/
  | nil (play : Play σ δ) : Leads play [] play
  /-- A round that is not the last, and then the others. -/
  | cons {play next reached : Play σ δ} {round : Round} {rest : List Round}
      (stepped : play.step round = .more next) (onward : Leads next rest reached) :
      Leads play (round :: rest) reached

theorem leads_cons_iff {play reached : Play σ δ} {round : Round} {rest : List Round} :
    play.Leads (round :: rest) reached
      ↔ ∃ next, play.step round = .more next ∧ next.Leads rest reached := by
  constructor
  · rintro (_ | ⟨stepped, onward⟩)
    exact ⟨_, stepped, onward⟩
  · rintro ⟨next, stepped, onward⟩
    exact .cons stepped onward

/-- Rounds lead by way of each round among them. -/
theorem Leads.split {play mid : Play σ δ} {earlier later : List Round} {round : Round}
    (onward : play.Leads (earlier ++ round :: later) mid) :
    ∃ reached next, play.Leads earlier reached ∧ reached.step round = .more next
      ∧ next.Leads later mid := by
  induction earlier generalizing play with
  | nil =>
    obtain ⟨next, stepped, rest⟩ := leads_cons_iff.1 onward
    exact ⟨play, next, .nil play, stepped, rest⟩
  | cons first earlier ih =>
    obtain ⟨second, stepped, rest⟩ := leads_cons_iff.1 onward
    obtain ⟨reached, next, went, passed, left⟩ := ih rest
    exact ⟨reached, next, .cons stepped went, passed, left⟩

/-- A play is not over exactly if its rounds lead to what it has come to. -/
theorem run_eq_more_iff {play mid : Play σ δ} {rounds : List Round} :
    play.run rounds = .more mid ↔ play.Leads rounds mid := by
  constructor
  · intro ran
    induction rounds generalizing play with
    | nil =>
      cases ran
      exact .nil _
    | cons round rest ih =>
      rw [run_cons] at ran
      cases stepped : play.step round with
      | finished result last =>
        rw [stepped] at ran
        cases ran
      | more next =>
        rw [stepped] at ran
        exact .cons stepped (ih ran)
  · intro onward
    induction onward with
    | nil => rfl
    | cons stepped _ ih =>
      rw [run_cons, stepped]
      exact ih

/-- A play is over exactly if some of its rounds lead to its last. -/
theorem run_eq_finished_iff {play last : Play σ δ} {rounds : List Round}
    {result : Except Failure Unit} :
    play.run rounds = .finished result last
      ↔ ∃ before round after mid, rounds = before ++ round :: after
        ∧ play.Leads before mid ∧ mid.step round = .finished result last := by
  constructor
  · intro ran
    induction rounds generalizing play with
    | nil => cases ran
    | cons round rest ih =>
      rw [run_cons] at ran
      cases stepped : play.step round with
      | finished answer left =>
        rw [stepped] at ran
        cases ran
        exact ⟨[], round, rest, play, rfl, .nil play, stepped⟩
      | more next =>
        rw [stepped] at ran
        obtain ⟨before, final, after, mid, rfl, onward, ended⟩ := ih ran
        exact ⟨round :: before, final, after, mid, rfl, .cons stepped onward, ended⟩
  · rintro ⟨before, round, after, mid, rfl, onward, ended⟩
    rw [run_append, run_eq_more_iff.2 onward, Step.playOn, run_cons, ended, Step.playOn]

/-! ## The main statement -/

/-- **A play ends with nothing left of the session.**  Take a play of any rounds
that is over, whatever the core, the display and the speaker do.  Nothing is then
held, latched, timed or sounding.  Its rounds led, one by one, each on what the one
before left, up to a last one, and that one gave the result and left what is left.
More rounds after it would have changed nothing.

No round before the last had a reason to end, and each took in its events, refreshed
the console and handed the display what that presented.  The last had a reason.  The
result is success exactly if that round had a request to quit or found no session,
and otherwise the failure of the core, of the speaker while it played, or of the
display.  A last round with a request to quit leaves the core, the screen and the
display alone, and would have done the same with any other interpreter and any other
way to draw.  Without a request it is a round like those before, and then the session
is stopped. -/
theorem run_leaves_stopped {play last : Play σ δ} {rounds : List Round}
    {result : Except Failure Unit} (returned : play.run rounds = .finished result last) :
    last.console.Over
      ∧ ∃ before round after mid, rounds = before ++ round :: after
        ∧ play.Leads before mid
        ∧ mid.step round = .finished result last
        ∧ (∀ others, play.run (before ++ round :: others) = .finished result last)
        ∧ (∀ earlier other later, before = earlier ++ other :: later →
            ∃ reached next, play.Leads earlier reached
              ∧ reached.step other = .more next
              ∧ next.Leads later mid
              ∧ reached.Plays other next
              ∧ ∀ reason, ¬ reached.Ends other reason)
        ∧ mid.Ends round result
        ∧ (result = .ok () ↔ round.AsksToQuit ∨ mid.console.isRunning = false)
        ∧ (round.AsksToQuit → mid.Quits round last
            ∧ ∀ (other : Interpreter σ) (shows : Display δ),
              @step σ δ other shows mid round = .finished result last)
        ∧ (¬ round.AsksToQuit → ∃ left, mid.Plays round left
            ∧ last = { left with console := left.console.shutDown }) := by
  obtain ⟨before, round, after, mid, split, onward, ended⟩ := run_eq_finished_iff.1 returned
  obtain ⟨gone, reason, quits, closes⟩ := comes_finished ended
  refine ⟨gone, before, round, after, mid, split, onward, ended, ?_, ?_, reason, reason.ok_iff, ?_,
    closes⟩
  · intro others
    exact run_eq_finished_iff.2 ⟨before, round, others, mid, rfl, onward, ended⟩
  · rintro earlier other later rfl
    obtain ⟨reached, next, went, stepped, rest⟩ := onward.split
    obtain ⟨plays, on⟩ := comes_more stepped
    exact ⟨reached, next, went, stepped, rest, plays, on⟩
  · intro asked
    refine ⟨quits asked, fun other shows => ?_⟩
    exact (step_congr_of_quit other _ shows _ mid asked).trans ended

end Step

/-- The failure with which a play is over. -/
def Step.failure? : Step σ δ → Option Failure
  | .more _ => none
  | .finished result _ => failureOf result

theorem Step.failure?_eq_some {step : Step σ δ} {failure : Failure} :
    step.failure? = some failure ↔ ∃ last, step = .finished (.error failure) last := by
  cases step with
  | more play => simp [Step.failure?]
  | finished result last => simp [Step.failure?, failureOf_eq_some]

/-- There is more to play. -/
def Step.isMore : Step σ δ → Bool
  | .more _ => true
  | .finished _ _ => false

theorem Step.isMore_iff {step : Step σ δ} : step.isMore = true ↔ ∃ next, step = .more next := by
  cases step with
  | more play => simp [Step.isMore]
  | finished result last => simp [Step.isMore]

end Play

/-! ## Plays with a tone that cannot be stopped -/

namespace Scripted

/-- A play that is about to begin, with a speaker that refuses to stop and a display
that loses its first frame. -/
def beginning (cycles : List (Routine (Except CoreFault Bool))) : Play Scripted Film where
  tracker := { hold := 100, seen := [], keys_nodup := List.nodup_nil }
  console := (Console.ofDevices {} stuck).after [.load (core cycles) []]
  display := { answers := [some "lost"] }

/-- Its core gives up in its first cycle. -/
def hopeless : Play Scripted Film := beginning [.done (.error ⟨"bad opcode"⟩)]

/-- Its core hums and draws. -/
def droning : Play Scripted Film := beginning
  [.call .enableSound fun _ => .call (.togglePixel 3 2) fun _ => .done (.ok false)]

/-- A round without events. -/
def quietly (time : Binary64) : Round := { expiry := 0, time }

/-- A round with a request to quit between two keys. -/
def leaving : Round where
  events := [(1, .key { code := .char 'x' }), (1, .key { code := .escape }),
    (2, .key { code := .char 'q' })]
  expiry := 2
  time := .ofInt 16

end Scripted

namespace Play

/-- The first round only starts the timing.  A core that gives up does so in the
third, before the request to quit.  A frame is lost in the second round and the tone
goes on, and the play fails with the frame.  With a request to quit in that round,
there is no frame. -/
theorem run_leaves_stopped_droning :
    (∃ last, Scripted.hopeless.run [Scripted.quietly (.ofInt 0), Scripted.quietly (.ofInt 8),
          Scripted.quietly (.ofInt 16), Scripted.leaving]
        = .finished (.error (.core ⟨"bad opcode"⟩)) last ∧ last.console.Over)
      ∧ (∃ last, Scripted.droning.run [Scripted.quietly (.ofInt 0), Scripted.quietly (.ofInt 16),
            Scripted.quietly (.ofInt 32)]
          = .finished (.error (.io "lost")) last ∧ last.console.Over)
      ∧ ∃ mid last, Scripted.droning.Leads [Scripted.quietly (.ofInt 0)] mid
        ∧ Scripted.droning.run [Scripted.quietly (.ofInt 0), Scripted.leaving,
            Scripted.quietly (.ofInt 32)] = .finished (.ok ()) last
        ∧ last.console.Over ∧ mid.Quits Scripted.leaving last := by
  refine ⟨?_, ?_, ?_⟩
  · have gaveUp : (Scripted.hopeless.run [Scripted.quietly (.ofInt 0), Scripted.quietly (.ofInt 8),
        Scripted.quietly (.ofInt 16), Scripted.leaving]).failure?
          = some (.core ⟨"bad opcode"⟩) := by decide +kernel
    obtain ⟨last, ran⟩ := Step.failure?_eq_some.1 gaveUp
    exact ⟨last, ran, (run_leaves_stopped ran).1⟩
  · have lost : (Scripted.droning.run [Scripted.quietly (.ofInt 0), Scripted.quietly (.ofInt 16),
        Scripted.quietly (.ofInt 32)]).failure? = some (.io "lost") := by decide +kernel
    obtain ⟨last, ran⟩ := Step.failure?_eq_some.1 lost
    exact ⟨last, ran, (run_leaves_stopped ran).1⟩
  · have asked : Scripted.leaving.AsksToQuit := ⟨1, { code := .escape }, by decide, .inl rfl⟩
    have began : (Scripted.droning.step (Scripted.quietly (.ofInt 0))).isMore = true := by
      decide +kernel
    obtain ⟨next, passed⟩ := Step.isMore_iff.1 began
    obtain ⟨last, ran⟩ : ∃ last, Scripted.droning.run [Scripted.quietly (.ofInt 0),
        Scripted.leaving, Scripted.quietly (.ofInt 32)] = .finished (.ok ()) last := by
      rw [run_cons, passed, Step.playOn, run_cons, step_of_quit next asked]
      exact ⟨_, rfl⟩
    obtain ⟨gone, before, round, after, mid, split, onward, ended, _, earlier, _, _, quits, _⟩ :=
      run_leaves_stopped ran
    match before with
    | [] =>
      cases split
      cases onward
      rw [passed] at ended
      cases ended
    | [first] =>
      cases split
      exact ⟨mid, last, onward, ran, gone, (quits asked).1⟩
    | first :: second :: rest =>
      obtain ⟨_, split⟩ := List.cons.inj split
      obtain ⟨rfl, _⟩ := List.cons.inj split
      obtain ⟨reached, _, _, _, _, _, on⟩ := earlier [first] Scripted.leaving rest rfl
      exact absurd (.quit asked) (on (.ok ()))

end Play

end Chip8Console
