import Chip8Console.Numeric.Shortest
import Chip8Console.Screen.Plane

/-!
# Pictures as points

A picture goes to a canvas as a list of points, one for each lit pixel.  The
origin of a canvas is at the top left pixel, its first axis points to the right
and its second axis upwards.  So the second coordinate of a point is never
positive.

* `Canvas.points` lists the points of the lit pixels in the order of the pixels.
* `Canvas.right` and `Canvas.bottom` bound the points of a picture that is not
  larger than the canvas.
-/

namespace Chip8Console

/-- A point of a canvas. -/
structure Point where
  /-- The distance to the right of the origin. -/
  across : Nat
  /-- The distance below the origin. -/
  down : Nat
  deriving DecidableEq

/-- The text of a coordinate to the right of the origin. -/
def acrossText (distance : Nat) : String := (Binary64.ofInt distance).text

/-- The text of a coordinate below the origin.  It has a sign even at zero. -/
def downText (distance : Nat) : String := "-" ++ acrossText distance

/-- A canvas for pictures of a given size. -/
structure Canvas where
  width : Nat
  height : Nat
  deriving DecidableEq

namespace Canvas

/-- The greatest distance of a point to the right. -/
def right (c : Canvas) : Nat := c.width - 1

/-- The greatest distance of a point below the origin. -/
def bottom (c : Canvas) : Nat := c.height - 1

/-- The point of the pixel at a position, counted row by row. -/
def point (c : Canvas) (position : Nat) : Point := ⟨position % c.width, position / c.width⟩

/-- The points of the lit pixels, in the order of the pixels. -/
def points (c : Canvas) (pixels : List Bool) : List Point :=
  pixels.zipIdx.filterMap fun (lit, position) => if lit then some (c.point position) else none

/-- A point lies within the bounds. -/
def holds (c : Canvas) (p : Point) : Bool := p.across ≤ c.right && p.down ≤ c.bottom

/-- The canvas for a plane. -/
def plane : Canvas := ⟨planeWidth, planeHeight⟩

end Canvas

end Chip8Console
