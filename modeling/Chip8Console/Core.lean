import Chip8Console.Devices.Basic
import Chip8Console.Memory.Basic

/-!
# Execution cores

The console does not interpret instructions itself.  It drives a *core*, which
owns a memory and keeps a state of its own.  A core has two entry points.  One
counts its timers down by a tick.  The other executes one instruction and says
whether the frame should end there.  Either may give up with a fault.

`Machine.enter` is the one way in which a core is entered.  A fault of the core
comes first.  If there is none, a fault that the devices parked is taken in its
place.
-/

namespace Chip8Console

universe u

/-- A core: a state of its own and a memory. -/
structure Core (σ : Type u) where
  state : σ
  memory : Memory

/-- What an entry point does to a core: it ends with a result or a fault, and
leaves a core behind. -/
abbrev EntryPoint (σ : Type u) (α : Type) :=
  Core σ → Routine (Except CoreFault α × Core σ)

/-- States that make a core. -/
class Interpreter (σ : Type u) where
  /-- Counts the timers down by one tick. -/
  tick : EntryPoint σ Unit
  /-- Executes one instruction.  The answer is true if nothing more should run
  in this frame. -/
  cycle : EntryPoint σ Bool

/-- An entry point of a core whose state is one of two kinds. -/
def EntryPoint.lift {σ τ : Type u} {α : Type} (entry : EntryPoint σ α) (inject : σ → τ)
    (state : σ) (memory : Memory) : Routine (Except CoreFault α × Core τ) := do
  let (result, core) ← entry ⟨state, memory⟩
  return (result, ⟨inject core.state, core.memory⟩)

/-- Cores of two kinds side by side. -/
instance {σ τ : Type u} [Interpreter σ] [Interpreter τ] : Interpreter (σ ⊕ τ) where
  tick
    | ⟨.inl state, memory⟩ => EntryPoint.lift Interpreter.tick Sum.inl state memory
    | ⟨.inr state, memory⟩ => EntryPoint.lift Interpreter.tick Sum.inr state memory
  cycle
    | ⟨.inl state, memory⟩ => EntryPoint.lift Interpreter.cycle Sum.inl state memory
    | ⟨.inr state, memory⟩ => EntryPoint.lift Interpreter.cycle Sum.inr state memory

/-- A core together with the devices it works on. -/
structure Machine (σ : Type u) where
  core : Core σ
  devices : Devices

namespace Machine

/-- Enters the core once.  The core's own fault comes before a parked one. -/
def enter {σ : Type u} {α : Type} (m : Machine σ) (entry : EntryPoint σ α) :
    Except Failure α × Machine σ :=
  match (entry m.core).run m.devices with
  | ((.error fault, core), devices) => (.error (.core fault), ⟨core, devices⟩)
  | ((.ok result, core), devices) =>
      match devices.collectFault with
      | (some failure, devices) => (.error failure, ⟨core, devices⟩)
      | (none, devices) => (.ok result, ⟨core, devices⟩)

end Machine

end Chip8Console
