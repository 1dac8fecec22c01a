import Chip8Console.Console

/-!
# Cores that play a script

A core whose state is the list of what its next cycles do.  Its timers do
nothing.  When the script is over, its cycles do nothing and never ask to stop.
Such cores serve as examples.

`Scripted.frame_stopAfter`: a script that asks to stop in its last cycle fills a
budget of the same length and ends its frame early.
-/

namespace Chip8Console

/-- What the next cycles of a core do. -/
structure Scripted where
  /-- The cycles to come, each with its result. -/
  cycles : List (Routine (Except CoreFault Bool))

namespace Scripted

instance : Interpreter Scripted where
  tick core := .done (.ok (), core)
  cycle core :=
    match core.state.cycles with
    | [] => .done (.ok false, core)
    | routine :: rest => routine.bind fun result => .done (result, { core with state := ⟨rest⟩ })

/-- A core with a script, in a memory of the usual size. -/
def core (cycles : List (Routine (Except CoreFault Bool))) : Core Scripted :=
  ⟨⟨cycles⟩, Memory.zeros ramSize⟩

/-- Devices that nothing was done to. -/
def untouched : Devices where
  keypad := { keymap := Keymap.conventional }

/-- A console with a speaker whose session runs such a core, from time zero. -/
def console (speaker : Speaker) (cycles : List (Routine (Except CoreFault Bool))) :
    Console Scripted where
  devices := { untouched with beeper := { speaker } }
  pacer := { Pacer.ofConfig {} with lastTime := some (Binary64.ofInt 0) }
  session := .running (core cycles)

/-- A script that goes on for so many cycles and then asks to stop. -/
def stopAfter (quiet : Nat) : List (Routine (Except CoreFault Bool)) :=
  List.replicate quiet (.done (.ok false)) ++ [.done (.ok true)]

/-- A core with such a script, and devices that nothing was done to. -/
def asking (quiet : Nat) : Machine Scripted := ⟨core (stopAfter quiet), untouched⟩

/-- A pacer with three cycles for a frame, the last of which was at time zero. -/
def threeCycles : Pacer where
  lastTime := some (Binary64.ofInt 0)
  interval := Binary64.ofInt 16
  budget := .fixed 3

theorem stopAfter_succ (quiet : Nat) :
    stopAfter (quiet + 1) = .done (.ok false) :: stopAfter quiet := by
  rw [stopAfter, List.replicate_succ, List.cons_append, stopAfter]

/-- A cycle that only has a result answers it and drops out of the script. -/
theorem enter_result {d : Devices} (unparked : d.fault = none) (stop : Bool)
    (rest : List (Routine (Except CoreFault Bool))) :
    (Machine.mk (core (.done (.ok stop) :: rest)) d).enter Interpreter.cycle
      = (.ok stop, ⟨core rest, d⟩) := by
  have same : d.collectFault = (none, d) := by
    rw [Devices.collectFault, unparked]
    congr 1
    rw [← unparked]
  have ran : (Interpreter.cycle (core (.done (.ok stop) :: rest))).run d
      = ((.ok stop, core rest), d) := rfl
  simp only [Machine.enter, ran, same]

theorem runCycles_stopAfter {d : Devices} (unparked : d.fault = none) (quiet ran : Nat) :
    (Machine.mk (core (stopAfter quiet)) d).runCycles (quiet + 1) ran
      = (.ok (ran + (quiet + 1), true), ⟨core [], d⟩) := by
  induction quiet generalizing ran with
  | zero =>
    have alone : stopAfter 0 = [.done (.ok true)] := rfl
    rw [Machine.runCycles, alone, enter_result unparked]
  | succ quiet ih =>
    rw [Machine.runCycles, stopAfter_succ, enter_result unparked]
    simp only [ih, Nat.add_assoc, Nat.add_comm 1]

/-- A script that asks to stop in its last cycle fills a budget of the same
length and ends its frame early. -/
theorem frame_stopAfter {d : Devices} (unparked : d.fault = none) (quiet : Nat) :
    ((Machine.mk (core (stopAfter quiet)) d).frame (quiet + 1)).1
      = .ok (.frame (quiet + 1) true) := by
  have ticked : (Machine.mk (core (stopAfter quiet)) d).enter Interpreter.tick
      = (.ok (), ⟨core (stopAfter quiet), { d with fault := none }⟩) := by
    have ran : (Interpreter.tick (core (stopAfter quiet))).run d
        = ((.ok (), core (stopAfter quiet)), d) := rfl
    simp only [Machine.enter, ran, Devices.collectFault, unparked]
  rw [Machine.frame, ticked]
  simp only [runCycles_stopAfter, Nat.zero_add]

end Scripted

end Chip8Console
