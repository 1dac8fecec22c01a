import Chip8Console.Proofs.Lifecycle

/-!
# What is on display

Two things put a plane on display.  A refresh that processes a frame presents the
back plane as the last call of the core left it.  A load that succeeds blanks the
screen.  Nothing else changes what is on display, as long as nobody handles the
screen from outside of a core.

A refresh that fails leaves the back plane as the core had it by then.  Nobody
will see that plane, because the next session starts from a blank screen.

* `Console.drawn?`: the back plane that the last call of a refresh left.
* `Console.shownOf`: all planes that a run puts on display.
* `Console.front_perform`, `Console.front_after`: what is on display after an
  operation, and after a run.
* `Console.shownOf_withBack`: without a session, the back plane has no bearing on
  what will be on display.
* `Console.completed_frames_shown`: the main statement.
-/

namespace Chip8Console

universe u

variable {σ : Type u}

/-! ## The plane that a frame presents -/

namespace Machine

variable [Interpreter σ]

/-- The back plane as a call of an entry point leaves it. -/
def drawn (m : Machine σ) (entry : Entry) : Plane :=
  ((entry.point m.core).run m.devices).2.screen.back

/-- Collecting a fault does not draw. -/
theorem back_enter (m : Machine σ) (entry : Entry) :
    (m.enter entry.point).2.devices.screen.back = m.drawn entry := by
  cases ended : (m.visit entry).result with
  | error fault =>
    rw [enter_of_error ended]
    rfl
  | ok stop =>
    rw [enter_of_ok ended]
    rfl

/-- A walk leaves the back plane as its last call did. -/
theorem drawn_walk (m : Machine σ) (entry : Entry) (rest : List Entry) :
    (List.zipWith drawn (m.entered (entry :: rest)) (entry :: rest)).getLast?
      = some (m.walk (entry :: rest)).last.devices.screen.back := by
  induction rest generalizing m entry with
  | nil =>
    have left := m.back_enter entry
    rcases m.entered_cons entry [] with ⟨next, entered, machines, onward⟩ | ⟨machines, ended⟩
    · rw [entered] at left
      rw [machines, onward, walk_nil, left]
      rfl
    · rw [machines, ended, left]
      rfl
  | cons second rest ih =>
    have left := m.back_enter entry
    rcases m.entered_cons entry (second :: rest) with
      ⟨next, _, machines, onward⟩ | ⟨machines, ended⟩
    · rw [machines, onward, List.zipWith_cons_cons, List.getLast?_cons, ih next second]
      rfl
    · rw [machines, ended, left]
      rfl

end Machine

namespace Console

section Refresh

variable [Interpreter σ]

/-- The back plane that the last call of a refresh left, if the core was entered. -/
def drawn? (c : Console σ) (time : Binary64) : Option Plane :=
  (List.zipWith Machine.drawn (c.entered time) (c.pacer.schedule time)).getLast?

/-- A frame puts what its last call left on display. -/
theorem screen_refresh_of_frame {c : Console σ} {time : Binary64} {count : Nat} {early : Bool}
    (answered : (c.refresh time).1 = .ok (.frame count early)) :
    c.drawn? time = some (c.refresh time).2.devices.screen.front
      ∧ (c.refresh time).2.devices.screen.back = (c.refresh time).2.devices.screen.front := by
  cases on : c.isRunning with
  | false =>
    rw [(refresh_of_not_running on time).1] at answered
    cases answered
  | true =>
    obtain ⟨core, running⟩ := isRunning_iff.1 on
    obtain ⟨pacer, after, refreshed, left⟩ := refreshed_of_ok running answered
    rw [left]
    cases refreshed with
    | @frame last _ _ finite recorded late visits front =>
      have due := Pacer.due?_eq_some.2 ⟨finite, last, recorded, rfl, late⟩
      refine ⟨?_, rfl⟩
      simp only [drawn?, entered, running]
      rw [Pacer.schedule_of_due due, frameSchedule]
      exact Machine.drawn_walk _ _ _

/-- Any other refresh leaves what is on display. -/
theorem front_refresh_of_no_frame {c : Console σ} {time : Binary64}
    (other : ∀ count early, (c.refresh time).1 ≠ .ok (.frame count early)) :
    (c.refresh time).2.devices.screen.front = c.devices.screen.front := by
  cases on : c.isRunning with
  | false => rw [(refresh_of_not_running on time).1]
  | true =>
    obtain ⟨core, running⟩ := isRunning_iff.1 on
    cases answer : (c.refresh time).1 with
    | error failure =>
      cases ended : ((c.machine core).walk (c.pacer.schedule time)).outcome with
      | ok early =>
        obtain ⟨outcome, _, answered, _⟩ := refresh_of_walk_ok running ended
        rw [answered] at answer
        cases answer
      | error _ =>
        obtain ⟨rest, said, entries, devices, step⟩ := refresh_of_walk_error running ended
        rw [step]
        show rest.stop.2.devices.screen.front = _
        rw [screen_stop, devices, Devices.screen_report]
        exact (c.machine core).front_walk _
    | ok outcome =>
      obtain ⟨pacer, after, refreshed, left⟩ := refreshed_of_ok running answer
      rw [left]
      cases refreshed with
      | started => rfl
      | waiting => rfl
      | @frame last count early _ _ _ _ _ => exact absurd answer (other count early)

end Refresh

/-! ## Loads -/

theorem screen_load_of_ok {c : Console σ} {core : Core σ} {program : Bytes}
    (went : (c.load core program).1.isOk = true) :
    (c.load core program).2.devices.screen = Screen.blank := by
  rcases done : c.load core program with ⟨answer, loaded⟩
  rw [done] at went
  cases answer with
  | error failure => cases went
  | ok value => exact (begun_of_load done).screen

theorem screen_load_of_error {c : Console σ} {core : Core σ} {program : Bytes}
    (failed : (c.load core program).1.isOk = false) :
    (c.load core program).2.devices.screen = c.devices.screen := by
  have kept := c.screen_stop
  unfold load at failed ⊢
  rcases stopped : c.stop with ⟨outcome, rest⟩
  rw [stopped] at failed kept
  cases outcome with
  | error refusal => exact kept
  | ok value =>
    rcases written : core.memory.install program with ⟨answer, memory⟩
    rw [written] at failed
    cases answer with
    | error tooLong => exact kept
    | ok value => cases failed

variable [Interpreter σ]

theorem screen_perform_of_begins {c : Console σ} {op : Op σ} (begun : c.begins op = true) :
    (c.perform op).2.devices.screen = Screen.blank := by
  cases op with
  | load core program => exact screen_load_of_ok begun
  | loadFrom core source =>
    rw [begins, loadFrom] at begun
    rw [perform, loadFrom]
    cases read : source.readAll with
    | error failure =>
      rw [read] at begun
      cases begun
    | ok program =>
      rw [read] at begun
      exact screen_load_of_ok begun
  | refresh time => cases begun
  | stop => cases begun
  | devices op => cases begun

/-! ## Operations and runs -/

/-- The operation handles the screen from outside of a core. -/
def Op.handlesScreen : Op σ → Bool
  | .devices (.screen _) => true
  | _ => false

/-- The plane that an operation puts on display. -/
def shown? (c : Console σ) (op : Op σ) : Option Plane :=
  if c.begins op then some Plane.blank
  else match op with
    | .refresh time =>
        match (c.refresh time).1 with
        | .ok (.frame _ _) => c.drawn? time
        | _ => none
    | _ => none

/-- The planes that a run puts on display, in order. -/
def shownOf (c : Console σ) : List (Op σ) → List Plane
  | [] => []
  | op :: rest => (c.shown? op).toList ++ (c.perform op).2.shownOf rest

/-- Whatever is neither a load that succeeds nor a frame leaves what is on
display. -/
theorem front_perform_of_other {c : Console σ} {op : Op σ} (outside : op.handlesScreen = false)
    (quiet : c.begins op = false)
    (other : ∀ time count early, op = .refresh time →
      (c.refresh time).1 ≠ .ok (.frame count early)) :
    (c.perform op).2.devices.screen.front = c.devices.screen.front := by
  cases op with
  | load core program => rw [perform, screen_load_of_error quiet]
  | loadFrom core source =>
    rw [begins, loadFrom] at quiet
    rw [perform, loadFrom]
    cases read : source.readAll with
    | error failure => rfl
    | ok program =>
      rw [read] at quiet
      exact congrArg Screen.front (screen_load_of_error quiet)
  | refresh time => exact front_refresh_of_no_frame fun count early => other time count early rfl
  | stop => exact congrArg Screen.front c.screen_stop
  | devices op =>
    cases op with
    | call call => exact c.devices.front_answer call
    | silence => rfl
    | collectFault => rfl
    | keypad op => rfl
    | screen op => cases outside

/-- An operation puts its plane on display, or leaves what is there. -/
theorem front_perform {c : Console σ} {op : Op σ} (outside : op.handlesScreen = false) :
    (c.perform op).2.devices.screen.front = (c.shown? op).getD c.devices.screen.front := by
  unfold shown?
  cases begun : c.begins op with
  | true =>
    rw [screen_perform_of_begins begun]
    rfl
  | false =>
    simp only [Bool.false_eq_true, if_false]
    split
    · next time =>
      split
      · next count early answered =>
        rw [(screen_refresh_of_frame answered).1]
        rfl
      · next no_frame =>
        exact front_refresh_of_no_frame no_frame
    · next no_refresh =>
      exact front_perform_of_other outside begun
        fun time _ _ same => absurd same (no_refresh time)

theorem front_after {c : Console σ} {ops : List (Op σ)}
    (outside : ∀ op ∈ ops, op.handlesScreen = false) :
    (c.after ops).devices.screen.front = (c.shownOf ops).getLast?.getD c.devices.screen.front := by
  induction ops generalizing c with
  | nil => rfl
  | cons op rest ih =>
    obtain ⟨first, others⟩ := List.forall_mem_cons.1 outside
    rw [after, ih others, front_perform first, shownOf]
    cases shown : c.shown? op with
    | none => rfl
    | some plane =>
      rw [Option.toList_some, List.singleton_append, List.getLast?_cons]
      rfl

end Console

/-! ## A back plane that nobody will see -/

/-- The devices with another back plane. -/
def Devices.withBack (d : Devices) (plane : Plane) : Devices :=
  { d with screen := { d.screen with back := plane } }

theorem Devices.parkError_withBack (d : Devices) (plane : Plane) (outcome : Except Failure Unit) :
    (d.withBack plane).parkError outcome = (d.parkError outcome).withBack plane := by
  cases outcome with
  | ok value => rfl
  | error failure => rfl

theorem Devices.diagnose_withBack (d : Devices) (plane : Plane) (text : String) :
    (d.withBack plane).diagnose text = (d.diagnose text).withBack plane := by
  have same : (d.withBack plane).diagnostics = d.diagnostics := rfl
  rw [diagnose, diagnose, same]
  cases d.diagnostics with
  | true => rfl
  | false => rfl

/-- A call is carried out beside the back plane, or drawn on it. -/
theorem Devices.answer_withBack (d : Devices) (plane : Plane) (c : DeviceCall) :
    ∃ drawn, ((d.withBack plane).answer c).2 = (d.answer c).2.withBack drawn := by
  cases c with
  | clearScreen => exact ⟨_, rfl⟩
  | togglePixel x y => exact ⟨_, rfl⟩
  | randomByte =>
    rw [answer_randomByte, answer_randomByte]
    exact ⟨plane, rfl⟩
  | isKeyDown id => exact ⟨plane, rfl⟩
  | consumeKey => exact ⟨plane, rfl⟩
  | enableSound => exact ⟨plane, (d.withBeeper d.beeper.enable.2).parkError_withBack plane _⟩
  | disableSound => exact ⟨plane, (d.withBeeper d.beeper.disable.2).parkError_withBack plane _⟩
  | debugByte value => exact ⟨plane, d.diagnose_withBack plane _⟩
  | debugWord value => exact ⟨plane, d.diagnose_withBack plane _⟩

namespace Console

/-- The console with another back plane. -/
def withBack (c : Console σ) (plane : Plane) : Console σ :=
  { c with devices := c.devices.withBack plane }

theorem stop_withBack (c : Console σ) (plane : Plane) :
    (c.withBack plane).stop = (c.stop.1, c.stop.2.withBack plane) := by
  have same : (c.withBack plane).isRunning = c.isRunning := rfl
  unfold stop
  rw [same]
  cases c.isRunning with
  | true => rfl
  | false => rfl

/-- A load that succeeds has no use for the back plane, and a load that fails
keeps it. -/
theorem load_withBack (c : Console σ) (plane : Plane) (core : Core σ) (program : Bytes) :
    (c.withBack plane).load core program
      = if (c.load core program).1.isOk then c.load core program
        else ((c.load core program).1, (c.load core program).2.withBack plane) := by
  unfold load
  rw [stop_withBack]
  rcases c.stop with ⟨outcome, rest⟩
  cases outcome with
  | error failure => rfl
  | ok value =>
    rcases core.memory.install program with ⟨answer, memory⟩
    cases answer with
    | error failure => rfl
    | ok value => rfl

theorem begins_withBack (c : Console σ) (plane : Plane) (op : Op σ) :
    (c.withBack plane).begins op = c.begins op := by
  have loads : ∀ core program,
      ((c.withBack plane).load core program).1 = (c.load core program).1 := by
    intro core program
    rw [load_withBack]
    split
    · rfl
    · rfl
  cases op with
  | load core program => rw [begins, begins, loads]
  | loadFrom core source =>
    rw [begins, begins, loadFrom, loadFrom]
    cases source.readAll with
    | error failure => rfl
    | ok program => exact congrArg Except.isOk (loads core program)
  | refresh time => rfl
  | stop => rfl
  | devices op => rfl

variable [Interpreter σ]

/-- A load that succeeds leaves nothing of another back plane. -/
theorem perform_withBack_of_begins {c : Console σ} {op : Op σ} (begun : c.begins op = true)
    (plane : Plane) : ((c.withBack plane).perform op).2 = (c.perform op).2 := by
  cases op with
  | load core program =>
    rw [begins] at begun
    rw [perform, perform, load_withBack, if_pos begun]
  | loadFrom core source =>
    rw [begins, loadFrom] at begun
    rw [perform, perform, loadFrom, loadFrom]
    cases read : source.readAll with
    | error failure =>
      rw [read] at begun
      cases begun
    | ok program =>
      rw [read] at begun
      show ((c.withBack plane).load core program).2 = (c.load core program).2
      rw [load_withBack, if_pos begun]
  | refresh time => cases begun
  | stop => cases begun
  | devices op => cases begun

/-- Without a session any other operation draws on it, or leaves it. -/
theorem perform_withBack_of_not_begins {c : Console σ} {op : Op σ} (off : c.isRunning = false)
    (outside : op.handlesScreen = false) (quiet : c.begins op = false) (plane : Plane) :
    ∃ drawn, ((c.withBack plane).perform op).2 = (c.perform op).2.withBack drawn := by
  cases op with
  | load core program =>
    rw [begins] at quiet
    rw [perform, perform, load_withBack, quiet]
    exact ⟨plane, rfl⟩
  | loadFrom core source =>
    rw [begins, loadFrom] at quiet
    rw [perform, perform, loadFrom, loadFrom]
    cases read : source.readAll with
    | error failure => exact ⟨plane, rfl⟩
    | ok program =>
      rw [read] at quiet
      show ∃ drawn, ((c.withBack plane).load core program).2 = (c.load core program).2.withBack drawn
      rw [load_withBack, quiet]
      exact ⟨plane, rfl⟩
  | refresh time =>
    have still : (c.withBack plane).isRunning = false := off
    rw [perform, perform, (refresh_of_not_running off time).1,
      (refresh_of_not_running still time).1]
    exact ⟨plane, rfl⟩
  | stop =>
    rw [perform, perform, stop_withBack]
    exact ⟨plane, rfl⟩
  | devices op =>
    cases op with
    | call call =>
      obtain ⟨drawn, same⟩ := c.devices.answer_withBack plane call
      exact ⟨drawn, congrArg (fun devices => { c with devices }) same⟩
    | silence => exact ⟨plane, rfl⟩
    | collectFault => exact ⟨plane, rfl⟩
    | keypad op => exact ⟨plane, rfl⟩
    | screen op => cases outside

/-- Without a session only a load puts a plane on display. -/
theorem shown?_of_not_running {c : Console σ} (off : c.isRunning = false) (op : Op σ) :
    c.shown? op = if c.begins op then some Plane.blank else none := by
  unfold shown?
  cases op with
  | refresh time => simp only [(refresh_of_not_running off time).1]
  | _ => rfl

/-- What the back plane is when there is no session has no bearing on what will
be on display. -/
theorem shownOf_withBack {c : Console σ} {ops : List (Op σ)} (off : c.isRunning = false)
    (outside : ∀ op ∈ ops, op.handlesScreen = false) (plane : Plane) :
    (c.withBack plane).shownOf ops = c.shownOf ops := by
  induction ops generalizing c plane with
  | nil => rfl
  | cons op rest ih =>
    obtain ⟨first, others⟩ := List.forall_mem_cons.1 outside
    have still : (c.withBack plane).isRunning = false := off
    rw [shownOf, shownOf, shown?_of_not_running still, shown?_of_not_running off, begins_withBack]
    congr 1
    cases begun : c.begins op with
    | true => rw [perform_withBack_of_begins begun]
    | false =>
      obtain ⟨drawn, same⟩ := perform_withBack_of_not_begins off first begun plane
      rw [same]
      exact ih (not_running_perform off begun) others drawn

/-- The first plane on display after a session is blank. -/
theorem head?_shownOf_of_not_running {c : Console σ} {ops : List (Op σ)}
    (off : c.isRunning = false) : ∀ plane ∈ (c.shownOf ops).head?, plane = Plane.blank := by
  induction ops generalizing c with
  | nil => simp [shownOf]
  | cons op rest ih =>
    rw [shownOf, shown?_of_not_running off]
    cases begun : c.begins op with
    | true => simp
    | false => exact ih (not_running_perform off begun)

/-! ## The main statement -/

/-- **Only completed frames are visible.**  Leave operations aside that handle the
screen from outside of a core.  A refresh that processes a frame puts on display
what the last call of the core drew.  A load that succeeds blanks both planes.
Whatever else is done leaves what is on display.  So after a run it is what the
run put there last.  And what a failed refresh left in the back plane has no
bearing on any plane that is put on display later, the first of which is blank. -/
theorem completed_frames_shown (c : Console σ) :
    (∀ time count early, (c.refresh time).1 = .ok (.frame count early) →
        c.drawn? time = some (c.refresh time).2.devices.screen.front
        ∧ (c.refresh time).2.devices.screen.back = (c.refresh time).2.devices.screen.front)
      ∧ (∀ op, c.begins op = true → (c.perform op).2.devices.screen = Screen.blank)
      ∧ (∀ op, op.handlesScreen = false → c.begins op = false →
        (∀ time count early, op = .refresh time →
          (c.refresh time).1 ≠ .ok (.frame count early)) →
        (c.perform op).2.devices.screen.front = c.devices.screen.front)
      ∧ (∀ ops, (∀ op ∈ ops, op.handlesScreen = false) →
        (c.after ops).devices.screen.front = (c.shownOf ops).getLast?.getD c.devices.screen.front)
      ∧ (∀ time failure, (c.refresh time).1 = .error failure →
        ∀ later plane, (∀ op ∈ later, op.handlesScreen = false) →
          ((c.refresh time).2.withBack plane).shownOf later = (c.refresh time).2.shownOf later
          ∧ ∀ shown ∈ ((c.refresh time).2.shownOf later).head?, shown = Plane.blank) := by
  refine ⟨?_, ?_, ?_, ?_, ?_⟩
  · intro time count early answered
    exact screen_refresh_of_frame answered
  · intro op begun
    exact screen_perform_of_begins begun
  · intro op outside quiet other
    exact front_perform_of_other outside quiet other
  · intro ops outside
    exact front_after outside
  · intro time failure failed later plane outside
    have off := (over_of_refresh_error failed).stopped
    exact ⟨shownOf_withBack off outside plane, head?_shownOf_of_not_running off⟩

end Console

/-! ## A frame that fails half drawn -/

namespace Scripted

/-- A session that draws a pixel in its first frame, and gives up in its second
when it has drawn another. -/
def blotting : List (Console.Op Scripted) := [
  .load (core [
    .call (.togglePixel 3 2) fun _ => .done (.ok true),
    .call (.togglePixel 4 2) fun _ => .done (.error ⟨"bad opcode"⟩)]) [],
  .refresh (Binary64.ofInt 0),
  .refresh (Binary64.ofInt 16)]

/-- A console whose next frame fails. -/
def blotted : Console Scripted := (Console.ofDevices {} untouched).after blotting

/-- Another session, up to its first frame. -/
def afresh : List (Console.Op Scripted) := [
  .load (core []) [], .refresh (Binary64.ofInt 40), .refresh (Binary64.ofInt 56)]

end Scripted

namespace Console

/-- The first frame stays on display when the second fails, and whatever the
second left is gone with the next session. -/
theorem completed_frames_shown_blotted :
    Scripted.blotted.devices.screen.front = Plane.blank.toggle 3 2
      ∧ (Scripted.blotted.refresh (Binary64.ofInt 32)).1 = .error (.core ⟨"bad opcode"⟩)
      ∧ (Scripted.blotted.refresh (Binary64.ofInt 32)).2.devices.screen
        = ⟨(Plane.blank.toggle 3 2).toggle 4 2, Plane.blank.toggle 3 2⟩
      ∧ ∀ plane, ((Scripted.blotted.refresh (Binary64.ofInt 32)).2.withBack plane).shownOf
        Scripted.afresh = [Plane.blank, Plane.blank] := by
  have shown : Scripted.blotted.devices.screen.front = Plane.blank.toggle 3 2 := by
    decide +kernel
  have failed : (Scripted.blotted.refresh (Binary64.ofInt 32)).1 = .error (.core ⟨"bad opcode"⟩) :=
    failureOf_eq_some.1 (by decide +kernel)
  have drawn : (Scripted.blotted.refresh (Binary64.ofInt 32)).2.devices.screen.back
      = (Plane.blank.toggle 3 2).toggle 4 2 := by decide +kernel
  have again : (Scripted.blotted.refresh (Binary64.ofInt 32)).2.shownOf Scripted.afresh
      = [Plane.blank, Plane.blank] := by decide +kernel
  obtain ⟨_, _, others, _, half_drawn⟩ := completed_frames_shown Scripted.blotted
  -- from here on it does not matter how the console came about, or when it was
  generalize Scripted.blotted = c at *
  generalize Binary64.ofInt 32 = time at *
  have no_frame : ∀ count early, (c.refresh time).1 ≠ .ok (.frame count early) := by
    intro count early answered
    rw [failed] at answered
    cases answered
  have kept := others (.refresh time) rfl rfl (by rintro _ count early ⟨⟩; exact no_frame _ _)
  rw [shown] at kept
  refine ⟨shown, failed, congrArg₂ Screen.mk drawn kept, ?_⟩
  intro plane
  rw [(half_drawn _ _ failed Scripted.afresh plane (by decide)).1, again]

end Console

end Chip8Console
