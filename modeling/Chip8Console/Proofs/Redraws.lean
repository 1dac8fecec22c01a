import Chip8Console.Proofs.Pacing
import Chip8Console.Terminal.Play

/-!
# A display beside the console

A refresh at a terminal is a refresh of the console.  If that processes a frame,
the display is handed the plane that is then on display.  The display has no way
to reach the console, so it cannot disturb it, whether it draws or not.

* `Console.presented?`, `Console.presentedBy`: what the console presents by itself.
* `Display.showAll`: a display that was handed some planes.
* `Console.Redrawn`: all that a refresh at a terminal can come to.
* `Console.redraws`: such refreshes in a row.
* `Console.redraws_follow`: the main statement.
-/

namespace Chip8Console

universe u v w

/-! ## Displays -/

/-- The display after it was handed planes in a row, whatever it answered. -/
def Display.showAll {δ : Type v} [Display δ] (display : δ) (planes : List Plane) : δ :=
  planes.foldl (fun display plane => (Display.draw display plane).2) display

theorem Display.showAll_append {δ : Type v} [Display δ] (display : δ)
    (earlier later : List Plane) :
    showAll display (earlier ++ later) = showAll (showAll display earlier) later :=
  List.foldl_append

/-- A film keeps every plane, also those that it fails to show. -/
theorem Film.planes_showAll (film : Film) (planes : List Plane) :
    (Display.showAll film planes).planes.toList = film.planes.toList ++ planes := by
  induction planes generalizing film with
  | nil => exact (List.append_nil _).symm
  | cons plane rest ih =>
    have kept : (Display.draw film plane).2.planes.toList = film.planes.toList ++ [plane] := by
      simp only [Display.draw]
      cases film.answers.head?.join with
      | none => exact Array.toList_push
      | some text => exact Array.toList_push
    have later := ih (Display.draw film plane).2
    rw [kept, List.append_assoc] at later
    exact later

namespace Console

variable {σ : Type u} {δ : Type v} [Interpreter σ]

/-! ## What the console presents by itself -/

/-- The plane on display right after a refresh that processed a frame. -/
def presented? (c : Console σ) (time : Binary64) : Option Plane :=
  match c.refresh time with
  | (.ok (.frame _ _), after) => some after.devices.screen.front
  | _ => none

/-- The planes that refreshes in a row present, in order. -/
def presentedBy (c : Console σ) : List Binary64 → List Plane
  | [] => []
  | time :: rest => (c.presented? time).toList ++ (c.refresh time).2.presentedBy rest

theorem presented?_eq_some {c : Console σ} {time : Binary64} {plane : Plane} :
    c.presented? time = some plane
      ↔ (∃ count early, (c.refresh time).1 = .ok (.frame count early))
        ∧ plane = (c.refresh time).2.devices.screen.front := by
  unfold presented?
  rcases c.refresh time with ⟨answer, after⟩
  cases answer with
  | error failure => simp
  | ok outcome =>
    cases outcome with
    | frame count early => simp [eq_comm]
    | _ => simp

theorem presented?_of_error {c : Console σ} {time : Binary64} {failure : Failure}
    (failed : (c.refresh time).1 = .error failure) : c.presented? time = none := by
  rw [Option.eq_none_iff_forall_ne_some]
  intro plane presented
  obtain ⟨⟨count, early, answered⟩, _⟩ := presented?_eq_some.1 presented
  rw [failed] at answered
  cases answered

/-- A plane is presented only by a session, and by a refresh that succeeds. -/
theorem running_of_presented {c : Console σ} {time : Binary64} {plane : Plane}
    (presented : c.presented? time = some plane) :
    c.isRunning = true ∧ ∃ outcome, (c.refresh time).1 = .ok outcome := by
  obtain ⟨⟨count, early, answered⟩, _⟩ := presented?_eq_some.1 presented
  refine ⟨?_, _, answered⟩
  rw [← Bool.not_eq_false, ← c.refresh_stopped_iff time, answered]
  nofun

variable [Display δ]

/-! ## One refresh at a terminal -/

/-- All that a refresh at a terminal can come to. -/
inductive Redrawn (c : Console σ) (display : δ) (time : Binary64) :
    Except Failure Progress → δ → Prop where
  /-- There is no session. -/
  | stopped (off : c.isRunning = false) : Redrawn c display time (.ok .finish) display
  /-- The refresh fails, and nothing is drawn. -/
  | failed {failure : Failure} (failed : (c.refresh time).1 = .error failure) :
      Redrawn c display time (.error failure) display
  /-- No frame is processed, and nothing is drawn. -/
  | passed {outcome : RefreshOutcome} (on : c.isRunning = true)
      (answered : (c.refresh time).1 = .ok outcome) (unpresented : c.presented? time = none) :
      Redrawn c display time (.ok .goOn) display
  /-- A frame is drawn. -/
  | drawn {plane : Plane} {display' : δ} (presented : c.presented? time = some plane)
      (shown : Display.draw display plane = (.ok (), display')) :
      Redrawn c display time (.ok .goOn) display'
  /-- A frame is handed to the display in vain. -/
  | refused {plane : Plane} {text : String} {display' : δ}
      (presented : c.presented? time = some plane)
      (unshown : Display.draw display plane = (.error text, display')) :
      Redrawn c display time (.error (.io text)) display'

/-- It is a refresh of the console, and one of these. -/
theorem redrawn (c : Console σ) (display : δ) (time : Binary64) :
    ∃ answer display', c.redraw display time = (answer, (c.refresh time).2, display')
      ∧ c.Redrawn display time answer display' := by
  have running := c.refresh_stopped_iff time
  unfold redraw
  rcases step : c.refresh time with ⟨answer, after⟩
  rw [step] at running
  have answered : (c.refresh time).1 = answer := by rw [step]
  cases answer with
  | error failure => exact ⟨_, _, rfl, .failed answered⟩
  | ok outcome =>
    cases outcome with
    | stopped => exact ⟨_, _, rfl, .stopped (running.1 rfl)⟩
    | started =>
      have on : c.isRunning = true := by simpa using running
      exact ⟨_, _, rfl, .passed on answered (by rw [presented?, step])⟩
    | waiting =>
      have on : c.isRunning = true := by simpa using running
      exact ⟨_, _, rfl, .passed on answered (by rw [presented?, step])⟩
    | frame count early =>
      have presented : c.presented? time = some after.devices.screen.front := by
        rw [presented?, step]
      rcases drawn : Display.draw display after.devices.screen.front with ⟨outcome, display'⟩
      cases outcome with
      | ok value => exact ⟨_, _, by simp only [drawn], .drawn presented drawn⟩
      | error text => exact ⟨_, _, by simp only [drawn], .refused presented drawn⟩

/-- The refresh fails, or the display does with the plane that it is handed. -/
def RedrawFails (c : Console σ) (display : δ) (time : Binary64) (failure : Failure) : Prop :=
  (c.refresh time).1 = .error failure
    ∨ ∃ plane text, c.presented? time = some plane
      ∧ (Display.draw display plane).1 = .error text ∧ failure = .io text

/-- What a refresh at a terminal answers: whether there was a session, or the
failure, and otherwise that it goes on. -/
structure Answers (c : Console σ) (display : δ) (time : Binary64)
    (answer : Except Failure Progress) : Prop where
  finish_iff : answer = .ok .finish ↔ c.isRunning = false
  error_iff : ∀ failure, answer = .error failure ↔ c.RedrawFails display time failure
  goOn_iff : answer = .ok .goOn
    ↔ c.isRunning = true ∧ ∀ failure, ¬ c.RedrawFails display time failure

/-- There is no other answer than these. -/
theorem Answers.of_iff {c : Console σ} {display : δ} {time : Binary64}
    {answer : Except Failure Progress}
    (finish_iff : answer = .ok .finish ↔ c.isRunning = false)
    (error_iff : ∀ failure, answer = .error failure ↔ c.RedrawFails display time failure) :
    c.Answers display time answer := by
  refine ⟨finish_iff, error_iff, ?_⟩
  rw [← Bool.not_eq_false, ← finish_iff]
  simp only [← error_iff]
  cases answer with
  | error failure => simp
  | ok progress => cases progress <;> simp

namespace Redrawn

variable {c : Console σ} {display display' : δ} {time : Binary64}
  {answer : Except Failure Progress}

/-- The display is handed what the console presents, and nothing else. -/
theorem display_eq (h : c.Redrawn display time answer display') :
    display' = Display.showAll display (c.presented? time).toList := by
  cases h with
  | stopped off =>
    rw [presented?, (refresh_of_not_running off time).1]
    rfl
  | failed failed =>
    rw [presented?_of_error failed]
    rfl
  | passed _ _ unpresented =>
    rw [unpresented]
    rfl
  | drawn presented shown =>
    rw [presented]
    exact (congrArg Prod.snd shown).symm
  | refused presented unshown =>
    rw [presented]
    exact (congrArg Prod.snd unshown).symm

theorem answers (h : c.Redrawn display time answer display') : c.Answers display time answer := by
  cases h with
  | stopped off =>
    have unpresented : c.presented? time = none := by
      rw [presented?, (refresh_of_not_running off time).1]
    refine .of_iff (iff_of_true rfl off) fun failure => iff_of_false nofun ?_
    simp [RedrawFails, unpresented, (refresh_of_not_running off time).1]
  | failed failed =>
    have on : c.isRunning ≠ false := by
      rw [Ne, ← c.refresh_stopped_iff time, failed]
      nofun
    refine .of_iff (iff_of_false nofun on) fun failure => ?_
    simp [RedrawFails, presented?_of_error failed, failed]
  | passed on answered unpresented =>
    refine .of_iff (iff_of_false nofun (by simp [on])) fun failure => iff_of_false nofun ?_
    simp [RedrawFails, unpresented, answered]
  | drawn presented shown =>
    obtain ⟨on, outcome, answered⟩ := running_of_presented presented
    refine .of_iff (iff_of_false nofun (by simp [on])) fun failure => iff_of_false nofun ?_
    simp [RedrawFails, presented, answered, shown]
  | refused presented unshown =>
    obtain ⟨on, outcome, answered⟩ := running_of_presented presented
    refine .of_iff (iff_of_false nofun (by simp [on])) fun failure => ?_
    simp [RedrawFails, presented, answered, unshown, eq_comm]

end Redrawn

/-! ## Refreshes at a terminal, in a row -/

/-- What each of some refreshes at a terminal answers, and the console and the
display that it leaves.  A failure ends nothing here. -/
def redraws (c : Console σ) (display : δ) :
    List Binary64 → List (Except Failure Progress × Console σ × δ)
  | [] => []
  | time :: rest =>
      let step := c.redraw display time
      step :: step.2.1.redraws step.2.2 rest

/-- Each finds the console that the ones before left, and a display that was handed
what these presented. -/
theorem redraws_at (c : Console σ) (display : δ) (earlier : List Binary64) (time : Binary64)
    (later : List Binary64) :
    ∃ answer, (c.redraws display (earlier ++ time :: later))[earlier.length]?
        = some (answer, c.after (refreshes (earlier ++ [time])),
          Display.showAll display (c.presentedBy (earlier ++ [time])))
      ∧ (c.after (refreshes earlier)).Answers (Display.showAll display (c.presentedBy earlier))
        time answer := by
  induction earlier generalizing c display with
  | nil =>
    obtain ⟨answer, display', step, redrawn⟩ := c.redrawn display time
    refine ⟨answer, ?_, redrawn.answers⟩
    rw [List.nil_append, List.nil_append, redraws, step, presentedBy, presentedBy,
      List.append_nil, ← redrawn.display_eq]
    rfl
  | cons first earlier ih =>
    obtain ⟨_, display', step, redrawn⟩ := c.redrawn display first
    obtain ⟨answer, at_place, answers⟩ := ih (c.refresh first).2 display'
    rw [redrawn.display_eq, ← Display.showAll_append] at at_place answers
    refine ⟨answer, ?_, answers⟩
    rw [List.cons_append, redraws, step, redrawn.display_eq]
    exact at_place

/-- Another display, even of another kind, makes no difference to the console. -/
theorem consoles_redraws {δ' : Type w} [Display δ'] (c : Console σ) (display : δ) (other : δ')
    (times : List Binary64) :
    (c.redraws display times).map (fun step => step.2.1)
      = (c.redraws other times).map fun step => step.2.1 := by
  induction times generalizing c display other with
  | nil => rfl
  | cons time rest ih =>
    obtain ⟨_, display', step, _⟩ := c.redrawn display time
    obtain ⟨_, other', step', _⟩ := c.redrawn other time
    rw [redraws, redraws, step, step', List.map_cons, List.map_cons, ih _ display' other']

/-! ## The main statement -/

/-- **The display follows the console.**  Take refreshes at a terminal in a row,
and whatever the display makes of the planes.  After each the console is the one
that the same refreshes without a display leave behind, so a failure to draw ends
nothing.  By then the display has been handed the planes that the frames
presented, each once and in order, and a film has kept just these.  A refresh
answers that it is over if there is no session, fails exactly if the console or
the display does, and with the same failure, and otherwise goes on. -/
theorem redraws_follow {δ' : Type w} [Display δ'] (c : Console σ) (display : δ) (other : δ')
    (film : Film) (times : List Binary64) :
    (∀ earlier time later, times = earlier ++ time :: later →
        ∃ answer, (c.redraws display times)[earlier.length]?
            = some (answer, c.after (refreshes (earlier ++ [time])),
              Display.showAll display (c.presentedBy (earlier ++ [time])))
          ∧ (c.after (refreshes earlier)).Answers
            (Display.showAll display (c.presentedBy earlier)) time answer)
      ∧ (∀ earlier time later, times = earlier ++ time :: later →
        ∃ answer shown, (c.redraws film times)[earlier.length]?
            = some (answer, c.after (refreshes (earlier ++ [time])), shown)
          ∧ shown.planes.toList = film.planes.toList ++ c.presentedBy (earlier ++ [time]))
      ∧ (c.redraws display times).map (fun step => step.2.1)
        = (c.redraws other times).map fun step => step.2.1 := by
  refine ⟨?_, ?_, consoles_redraws c display other times⟩
  · rintro earlier time later rfl
    exact redraws_at c display earlier time later
  · rintro earlier time later rfl
    obtain ⟨answer, at_place, _⟩ := redraws_at c film earlier time later
    exact ⟨answer, _, at_place, film.planes_showAll _⟩

end Console

/-! ## A display that loses a frame -/

namespace Scripted

/-- A session that draws a pixel in each of its first two frames, and gives up in
the third. -/
def sketching : Console Scripted := (Console.ofDevices {} untouched).after [
  .load (core [
    .call (.togglePixel 3 2) fun _ => .done (.ok true),
    .call (.togglePixel 4 2) fun _ => .done (.ok true),
    .done (.error ⟨"bad opcode"⟩)]) []]

/-- A film that fails to show its first plane. -/
def scratched : Film := ⟨[some "lost"], #[]⟩

/-- Its first frames.  There is none at the third of these times. -/
def drawing : List Binary64 := [.ofInt 0, .ofInt 16, .ofInt 20]

/-- Its last frames. -/
def failing : List Binary64 := [.ofInt 48, .ofInt 64]

end Scripted

namespace Console

/-- The film is handed both planes, although it failed to show the first.  Its
failure is answered and ends nothing, so the core comes to give up. -/
theorem redraws_follow_scratched :
    (∃ shown, (Scripted.sketching.redraws Scripted.scratched [.ofInt 0, .ofInt 16])[1]?
        = some (.error (.io "lost"),
          Scripted.sketching.after (refreshes [.ofInt 0, .ofInt 16]), shown))
      ∧ (∃ answer shown, (Scripted.sketching.redraws Scripted.scratched
            (Scripted.drawing ++ .ofInt 32 :: Scripted.failing))[3]?
          = some (answer,
            Scripted.sketching.after (refreshes (Scripted.drawing ++ [.ofInt 32])), shown)
        ∧ shown.planes.toList = [Plane.blank.toggle 3 2, (Plane.blank.toggle 3 2).toggle 4 2])
      ∧ ((Scripted.sketching.after (refreshes (Scripted.drawing ++ [.ofInt 32]))).refresh
          (.ofInt 48)).1 = .error (.core ⟨"bad opcode"⟩) := by
  have planes : Scripted.sketching.presentedBy (Scripted.drawing ++ [.ofInt 32])
      = [Plane.blank.toggle 3 2, (Plane.blank.toggle 3 2).toggle 4 2] := by decide +kernel
  refine ⟨?_, ?_, failureOf_eq_some.1 (by decide +kernel)⟩
  · obtain ⟨follows, _, _⟩ := redraws_follow Scripted.sketching Scripted.scratched
      (FrameCounter.mk 0) Scripted.scratched [.ofInt 0, .ofInt 16]
    obtain ⟨answer, at_place, answers⟩ := follows [.ofInt 0] (.ofInt 16) [] rfl
    have presented : (Scripted.sketching.after (refreshes [.ofInt 0])).presented? (.ofInt 16)
        = some (Plane.blank.toggle 3 2) := by decide +kernel
    have unshown : (Display.draw Scripted.scratched (Plane.blank.toggle 3 2)).1
        = .error "lost" := rfl
    have before : Scripted.sketching.presentedBy [.ofInt 0] = [] := by decide +kernel
    rw [before] at answers
    have lost : answer = .error (.io "lost") :=
      (answers.error_iff _).2 (.inr ⟨_, "lost", presented, unshown, rfl⟩)
    rw [lost] at at_place
    exact ⟨_, at_place⟩
  · obtain ⟨_, kept, _⟩ := redraws_follow Scripted.sketching Scripted.scratched
      (FrameCounter.mk 0) Scripted.scratched (Scripted.drawing ++ .ofInt 32 :: Scripted.failing)
    obtain ⟨answer, shown, at_place, handed⟩ := kept _ _ _ rfl
    rw [planes] at handed
    exact ⟨answer, shown, at_place, handed⟩

end Console

end Chip8Console
