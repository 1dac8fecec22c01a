import Chip8Console.Proofs.Faults

/-!
# Runs of a console

A run is a list of operations carried out one after another.  It enters cores,
and it puts requests on the speaker's record.

* `Console.after`: the console after a run.
* `Console.visitsOf`: all visits of a run.
* `Console.Throughout`: something holds of each operation of a run where it is
  carried out.
* `Devices.Across`: what holds across each single thing that is done to the
  devices holds across a run.
* `Console.Clean`: no core gives up in a run and the speaker never refuses.
-/

namespace Chip8Console

universe u

namespace Console

variable {σ : Type u} [Interpreter σ]

/-- The console after operations in a row. -/
def after (c : Console σ) : List (Op σ) → Console σ
  | [] => c
  | op :: rest => (c.perform op).2.after rest

/-- The visits of operations in a row. -/
def visitsOf (c : Console σ) : List (Op σ) → List Visit
  | [] => []
  | op :: rest => c.visits op ++ (c.perform op).2.visitsOf rest

theorem after_append (c : Console σ) (earlier later : List (Op σ)) :
    c.after (earlier ++ later) = (c.after earlier).after later := by
  induction earlier generalizing c with
  | nil => rfl
  | cons op rest ih => exact ih (c.perform op).2

theorem visitsOf_append (c : Console σ) (earlier later : List (Op σ)) :
    c.visitsOf (earlier ++ later) = c.visitsOf earlier ++ (c.after earlier).visitsOf later := by
  induction earlier generalizing c with
  | nil => rfl
  | cons op rest ih =>
    rw [List.cons_append, visitsOf, visitsOf, ih, List.append_assoc]
    rfl

/-- What holds at first and is kept by every operation holds after every run. -/
theorem after_induction {P : Console σ → Prop} (kept : ∀ c op, P c → P (c.perform op).2)
    {c : Console σ} (start : P c) (ops : List (Op σ)) : P (c.after ops) := by
  induction ops generalizing c with
  | nil => exact start
  | cons op rest ih => exact ih (kept c op start)

/-- It holds of each operation and the console that it finds. -/
def Throughout (P : Console σ → Op σ → Prop) (c : Console σ) : List (Op σ) → Prop
  | [] => True
  | op :: rest => P c op ∧ (c.perform op).2.Throughout P rest

instance decidableThroughout {P : Console σ → Op σ → Prop} [∀ c op, Decidable (P c op)] :
    (c : Console σ) → (ops : List (Op σ)) → Decidable (c.Throughout P ops)
  | _, [] => .isTrue trivial
  | c, op :: rest => @instDecidableAnd _ _ _ (decidableThroughout (c.perform op).2 rest)

theorem throughout_append {P : Console σ → Op σ → Prop} {c : Console σ}
    {earlier later : List (Op σ)} :
    c.Throughout P (earlier ++ later)
      ↔ c.Throughout P earlier ∧ (c.after earlier).Throughout P later := by
  induction earlier generalizing c with
  | nil => simp [Throughout, after]
  | cons op rest ih => rw [List.cons_append, Throughout, Throughout, ih, and_assoc, after]

/-- What every operation of a run keeps, the run keeps. -/
theorem after_of_throughout {I : Console σ → Prop} {P : Console σ → Op σ → Prop}
    (kept : ∀ c op, I c → P c op → I (c.perform op).2) {c : Console σ} (start : I c)
    {ops : List (Op σ)} (each : c.Throughout P ops) : I (c.after ops) := by
  induction ops generalizing c with
  | nil => exact start
  | cons op rest ih => exact ih (kept c op start each.1) each.2

/-! ## The devices of a console -/

end Console

/-- A relation between earlier and later devices that composes, and that holds
across each single thing that is done to the devices of a console. -/
structure Devices.Across (R : Devices → Devices → Prop) : Prop where
  trans : ∀ {d e f}, R d e → R e f → R d f
  answer : ∀ d c, R d (Devices.answer d c).2
  collect : ∀ d, R d (Devices.collectFault d).2
  silence : ∀ d : Devices, R d { d with beeper := d.beeper.disable.2 }
  others : ∀ (d : Devices) (keypad : Keypad) (screen : Screen) (log : Array LogEntry),
    R d { d with keypad, screen, log }

namespace Devices.Across

variable {R : Devices → Devices → Prop} {σ : Type u}

theorem refl (h : Across R) (d : Devices) : R d d := h.others d d.keypad d.screen d.log

theorem stop (h : Across R) (c : Console σ) : R c.devices c.stop.2.devices := by
  obtain ⟨log, same⟩ := c.stop_eq
  rw [same]
  exact h.trans (h.others c.devices c.devices.keypad.reset c.devices.screen log) (h.silence _)

theorem load (h : Across R) (c : Console σ) (core : Core σ) (program : Bytes) :
    R c.devices (c.load core program).2.devices := by
  obtain ⟨screen, log, session, left⟩ := c.load_eq core program
  rw [left]
  exact h.trans (h.stop c) (h.others _ _ screen log)

variable [Interpreter σ]

theorem refresh (h : Across R) (c : Console σ) (time : Binary64) :
    R c.devices (c.refresh time).2.devices := by
  cases on : c.isRunning with
  | false =>
    rw [(Console.refresh_of_not_running on time).1]
    exact h.refl c.devices
  | true =>
    obtain ⟨core, running⟩ := Console.isRunning_iff.1 on
    have walked := Machine.across_walk h.refl h.trans h.answer h.collect (c.machine core)
      (c.pacer.schedule time)
    cases ended : ((c.machine core).walk (c.pacer.schedule time)).outcome with
    | ok early =>
      obtain ⟨outcome, screen, _, left⟩ := Console.refresh_of_walk_ok running ended
      rw [left]
      exact h.trans walked (h.others _ _ screen _)
    | error failure =>
      obtain ⟨rest, said, entries, devices, step⟩ := Console.refresh_of_walk_error running ended
      have stopped := h.stop rest
      rw [devices] at stopped
      rw [step]
      -- two reports, and the clean-up between them
      exact h.trans walked (h.trans (h.others _ _ _ _) (h.trans stopped (h.others _ _ _ _)))

theorem perform (h : Across R) (c : Console σ) (op : Console.Op σ) :
    R c.devices (c.perform op).2.devices := by
  cases op with
  | load core program => exact h.load c core program
  | loadFrom core source =>
    rw [Console.perform, Console.loadFrom]
    cases source.readAll with
    | error failure => exact h.refl c.devices
    | ok program => exact h.load c core program
  | refresh time => exact h.refresh c time
  | stop => exact h.stop c
  | devices op =>
    cases op with
    | call call => exact h.answer c.devices call
    | silence => exact h.trans (h.silence c.devices) (h.others _ _ _ _)
    | collectFault => exact h.collect c.devices
    | keypad op => exact h.others c.devices _ _ _
    | screen op => exact h.others c.devices _ _ _

theorem after (h : Across R) (c : Console σ) (ops : List (Console.Op σ)) :
    R c.devices (c.after ops).devices :=
  Console.after_induction (P := fun d => R c.devices d.devices)
    (fun d op before => h.trans before (h.perform d op)) (h.refl c.devices) ops

end Devices.Across

namespace Console

variable {σ : Type u} [Interpreter σ]

/-! ## The record -/

theorem across_calls :
    Devices.Across fun d e => ∃ requests, e.calls = d.calls ++ requests where
  trans := by
    rintro d e f ⟨earlier, first⟩ ⟨later, second⟩
    exact ⟨earlier ++ later, by rw [second, first, List.append_assoc]⟩
  answer := by
    intro d c
    obtain ⟨requests, heard⟩ := d.heard_answer c
    exact ⟨requests, heard.recorded⟩
  collect := fun _ => ⟨[], (List.append_nil _).symm⟩
  silence := by
    intro d
    obtain ⟨requests, recorded, _⟩ := d.beeper.disable_requests
    exact ⟨requests, recorded⟩
  others := fun _ _ _ _ => ⟨[], (List.append_nil _).symm⟩

/-- A run only adds to the record. -/
theorem calls_after (c : Console σ) (ops : List (Op σ)) :
    ∃ requests, (c.after ops).devices.calls = c.devices.calls ++ requests :=
  across_calls.after c ops

/-! ## Clean runs -/

/-- In a run no core gives up and the speaker never refuses. -/
structure Clean (c : Console σ) (ops : List (Op σ)) : Prop where
  /-- Every visit ends with a result. -/
  results : ∀ v ∈ c.visitsOf ops, ∃ stop, v.result = .ok stop
  /-- Every request is granted. -/
  granted : ∀ call ∈ (c.after ops).devices.requestsSince c.devices, call.answer = none

/-- A clean run is clean up to any point and from there on. -/
theorem Clean.split {c : Console σ} {earlier later : List (Op σ)}
    (clean : c.Clean (earlier ++ later)) :
    c.Clean earlier ∧ (c.after earlier).Clean later := by
  obtain ⟨first, recorded⟩ := c.calls_after earlier
  obtain ⟨second, added⟩ := (c.after earlier).calls_after later
  have both : (c.after (earlier ++ later)).devices.calls = c.devices.calls ++ (first ++ second) := by
    rw [after_append, added, recorded, List.append_assoc]
  have results := clean.results
  have granted := clean.granted
  rw [visitsOf_append] at results
  rw [Devices.requestsSince_of_calls both] at granted
  refine ⟨⟨?_, ?_⟩, ⟨?_, ?_⟩⟩
  · intro v visited
    exact results v (List.mem_append_left _ visited)
  · rw [Devices.requestsSince_of_calls recorded]
    intro call asked
    exact granted call (List.mem_append_left _ asked)
  · intro v visited
    exact results v (List.mem_append_right _ visited)
  · rw [Devices.requestsSince_of_calls added]
    intro call asked
    exact granted call (List.mem_append_right _ asked)

end Console

end Chip8Console
