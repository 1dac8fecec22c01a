import Chip8Console.Screen.Plane
import Mathlib.Data.List.Count
import Mathlib.Data.List.Nodup

/-!
# Pictures drawn by flipping

A picture on a plane comes about by flipping pixels.  A pixel is lit in the end if
it was flipped an odd number of times, so the order of the flips has no bearing on
the picture.  Flipping the same pixels once more wipes them out.

* `Plane.toggleAll`: pixels flipped one after another.
* `Plane.getLsbD_toggleAll`: each pixel, by how often it was flipped.
* `Plane.toggleAll_toggleAll`: flipping twice.
* `Plane.getLsbD_toggleAll_blank`: a drawing that flips no pixel twice.
-/

namespace Chip8Console.Plane

/-- The position of a pixel that is given by its column and its row. -/
def position (pixel : UInt8 × UInt8) : Nat := index pixel.1 pixel.2

/-- The plane with pixels flipped one after another. -/
def toggleAll (p : Plane) : List (UInt8 × UInt8) → Plane
  | [] => p
  | (x, y) :: rest => (p.toggle x y).toggleAll rest

/-- How often the pixel at a position is among the given ones. -/
def flips (pixels : List (UInt8 × UInt8)) (i : Nat) : Nat := (pixels.map position).count i

theorem toggleAll_append (p : Plane) (earlier later : List (UInt8 × UInt8)) :
    p.toggleAll (earlier ++ later) = (p.toggleAll earlier).toggleAll later := by
  induction earlier generalizing p with
  | nil => rfl
  | cons pixel rest ih => exact ih (p.toggle pixel.1 pixel.2)

/-- A pixel has changed if it was flipped an odd number of times. -/
theorem getLsbD_toggleAll (p : Plane) (pixels : List (UInt8 × UInt8)) (i : Nat) :
    (p.toggleAll pixels).getLsbD i = (p.getLsbD i ^^ decide (flips pixels i % 2 = 1)) := by
  induction pixels generalizing p with
  | nil => simp [toggleAll, flips]
  | cons pixel rest ih =>
    have more : flips (pixel :: rest) i = flips rest i + if i = position pixel then 1 else 0 := by
      rw [flips, List.map_cons, List.count_cons, ← flips]
      simp only [beq_iff_eq, eq_comm (a := i)]
    rw [toggleAll, ih, getLsbD_toggle, Bool.xor_assoc, more]
    congr 1
    by_cases here : i = position pixel
    · have flipped : decide (i = index pixel.1 pixel.2) = true := decide_eq_true here
      rw [flipped, if_pos here, Bool.true_xor, ← decide_not, decide_eq_decide]
      omega
    · have kept : decide (i = index pixel.1 pixel.2) = false := decide_eq_false here
      rw [kept, if_neg here, Bool.false_xor, Nat.add_zero]

/-- Flipping the same pixels once more restores the plane. -/
theorem toggleAll_toggleAll (p : Plane) (pixels : List (UInt8 × UInt8)) :
    (p.toggleAll pixels).toggleAll pixels = p := by
  apply BitVec.eq_of_getLsbD_eq
  intro i _
  rw [getLsbD_toggleAll, getLsbD_toggleAll, Bool.xor_assoc, Bool.xor_self, Bool.xor_false]

/-- If no pixel is flipped twice, a drawing on a blank plane consists of the flipped
pixels. -/
theorem getLsbD_toggleAll_blank {pixels : List (UInt8 × UInt8)}
    (apart : (pixels.map position).Nodup) (i : Nat) :
    (blank.toggleAll pixels).getLsbD i = true ↔ i ∈ pixels.map position := by
  have dark : blank.getLsbD i = false := BitVec.getLsbD_zero
  rw [getLsbD_toggleAll, dark, Bool.false_xor, decide_eq_true_eq, flips]
  by_cases listed : i ∈ pixels.map position
  · simp [listed, List.count_eq_one_of_mem apart listed]
  · simp [listed, List.count_eq_zero_of_not_mem listed]

end Chip8Console.Plane
