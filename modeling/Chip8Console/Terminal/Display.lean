import Chip8Console.Screen.Plane

/-!
# Displays

A display shows planes.  It may fail to, with a reason.

Two displays need no hardware.  A `FrameCounter` only counts.  A `Film` keeps
every plane it is given, and fails when it is told to.
-/

namespace Chip8Console

universe u

/-- Something that can show a plane. -/
class Display (δ : Type u) where
  /-- Shows a plane.  The answer is the reason of a failure, if there is one. -/
  draw : δ → Plane → Except String Unit × δ

/-- A display that only counts the planes it is given. -/
structure FrameCounter where
  /-- How many planes there have been. -/
  frames : Nat := 0

instance : Display FrameCounter where
  draw counter _ := (.ok (), ⟨counter.frames + 1⟩)

/-- A display that keeps the planes it is given.  Its answers to come are listed:
nothing on success, and else the reason.  After the end of the list it never
fails. -/
structure Film where
  /-- The answers to the next planes. -/
  answers : List (Option String) := []
  /-- The planes so far, oldest first. -/
  planes : Array Plane := #[]

instance : Display Film where
  draw film plane :=
    let after : Film := ⟨film.answers.tail, film.planes.push plane⟩
    match film.answers.head?.join with
    | none => (.ok (), after)
    | some text => (.error text, after)

end Chip8Console
