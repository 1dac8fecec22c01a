/-!
# Planes

A plane is a picture of 64 by 32 pixels, each lit or not.  It is a bit vector,
row by row from the top and each row from the left.  Coordinates are bytes and
wrap around at the edges.
-/

namespace Chip8Console

/-- Pixels in a row. -/
def planeWidth : Nat := 64

/-- Rows in a plane. -/
def planeHeight : Nat := 32

/-- Pixels in a plane. -/
def planeSize : Nat := planeWidth * planeHeight

/-- A picture of 64 by 32 pixels. -/
abbrev Plane := BitVec 2048

namespace Plane

/-- No pixel is lit. -/
def blank : Plane := 0#2048

/-- The position of a pixel in the plane. -/
def index (x y : UInt8) : Nat := y.toNat % planeHeight * planeWidth + x.toNat % planeWidth

/-- Every position lies in the plane. -/
theorem index_lt (x y : UInt8) : index x y < 2048 := by
  unfold index planeHeight planeWidth
  omega

/-- A pixel is lit. -/
def pixel (p : Plane) (x y : UInt8) : Bool := p.getLsbD (index x y)

/-- The plane with one pixel flipped. -/
def toggle (p : Plane) (x y : UInt8) : Plane := p ^^^ BitVec.twoPow 2048 (index x y)

/-- The pixels, row by row from the top and each row from the left. -/
def pixels (p : Plane) : List Bool := (List.range 2048).map p.getLsbD

/-- The pixels of one row as a word.  The leftmost pixel is the highest bit. -/
def row (p : Plane) (y : Nat) : BitVec 64 := (p.extractLsb' (64 * y) 64).reverse

/-- Flipping a pixel changes that pixel and no other. -/
theorem getLsbD_toggle (p : Plane) (x y : UInt8) (i : Nat) :
    (p.toggle x y).getLsbD i = (p.getLsbD i ^^ decide (i = index x y)) := by
  have := index_lt x y
  simp only [toggle, BitVec.getLsbD_xor, BitVec.getLsbD_twoPow]
  congr 1
  by_cases same : i = index x y
  · simp [same, this]
  · simp [same, eq_comm]

/-- A plane has all its pixels. -/
@[simp] theorem length_pixels (p : Plane) : p.pixels.length = 2048 := by simp [pixels]

end Plane

end Chip8Console
