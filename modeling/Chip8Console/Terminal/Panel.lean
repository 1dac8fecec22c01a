import Chip8Console.Terminal.Display
import Chip8Console.Terminal.Grid
import Chip8Console.Terminal.Canvas

/-!
# Planes on a terminal

A plane is shown at the top left of a terminal, one cell for each pixel, inside
a box with a title.

* Opening a terminal for this clears all its cells and hides the cursor.
  Closing it only shows the cursor.
* The picture needs 66 columns and 34 rows.  A *panel* is a terminal that has
  them within its drawing area, so drawing on it cannot fail.
* The drawing area is the whole terminal, unless that has more than 65535 cells.
  Then it is the part at the top left that has so many cells and the same
  proportions.
* Drawing replaces every cell of the picture and none outside it.
-/

namespace Chip8Console

/-! ## The parts of the picture -/

/-- The title of the box. -/
def boxTitle : List Char := ['C', 'H', 'I', 'P', '-', '8']

/-- Columns of the picture. -/
def boxColumns : Nat := planeWidth + 2

/-- Rows of the picture. -/
def boxRows : Nat := planeHeight + 2

/-- The character of the box in a column and a row of the picture.  There is
none inside the box. -/
def boxSymbol? (column row : Nat) : Option Char :=
  if row = 0 then
    if column = 0 then some '┌'
    else if column = boxColumns - 1 then some '┐'
    else some (boxTitle[column - 1]?.getD '─')
  else if row = boxRows - 1 then
    if column = 0 then some '└'
    else if column = boxColumns - 1 then some '┘'
    else some '─'
  else if column = 0 || column = boxColumns - 1 then some '│'
  else none

/-- The cell of the picture of a blank plane. -/
def boxCell (column row : Nat) : Cell :=
  { symbol := (boxSymbol? column row).getD ' ', background := .black }

/-- The cell of a lit pixel. -/
def litCell : Cell := { symbol := '▄', foreground := .white }

namespace Grid

variable {columns rows : Nat}

/-- Cleared, and without a cursor. -/
def opened (_ : Grid columns rows) : Grid columns rows :=
  { blank columns rows with cursorVisible := false }

/-- With a cursor. -/
def closed (g : Grid columns rows) : Grid columns rows := { g with cursorVisible := true }

/-- The picture of a blank plane. -/
def drawBox (g : Grid columns rows) : Grid columns rows :=
  g.mapCells fun column row cell =>
    if column < boxColumns && row < boxRows then boxCell column row else cell

/-- A point of a canvas, shown inside the box.  Points beyond its bounds do not show. -/
def paintPoint (c : Canvas) (g : Grid columns rows) (p : Point) : Grid columns rows :=
  if c.holds p then g.paint (p.across + 1) (p.down + 1) litCell else g

/-- The box, and in it the points of the lit pixels. -/
def drawPixels (g : Grid columns rows) (pixels : List Bool) : Grid columns rows :=
  (Canvas.plane.points pixels).foldl (paintPoint Canvas.plane) g.drawBox

end Grid

/-- The most cells of a drawing area. -/
def areaLimit : Nat := 65535

/-- So many cells lie in the drawing area along one side of a terminal.  Of a
terminal with too many cells the area has `√(areaLimit * side / other)` along
that side, less any fraction; the second part says so without the root. -/
abbrev FitsAlong (length side other : Nat) : Prop :=
  length ≤ side ∧ (side * other ≤ areaLimit ∨ length * length * other ≤ areaLimit * side)

/-- The drawing area of a terminal of this size has room for the picture. -/
abbrev HasRoom (columns rows : Nat) : Prop :=
  FitsAlong boxColumns columns rows ∧ FitsAlong boxRows rows columns

/-- Draws a whole plane of pixels on a terminal that has room for it.  Anything
else cannot be drawn. -/
def Grid.drawPixels? {columns rows : Nat} (g : Grid columns rows) (pixels : List Bool) :
    Option (Grid columns rows) :=
  if pixels.length = planeSize ∧ HasRoom columns rows then some (g.drawPixels pixels) else none

/-! ## Panels -/

/-- A terminal that has room for the picture. -/
structure Panel where
  /-- Cells in a row. -/
  columns : Nat
  rows : Nat
  /-- The face of the terminal. -/
  grid : Grid columns rows
  /-- There is room. -/
  room : HasRoom columns rows

namespace Panel

/-- Opens a terminal for drawing, if it has room. -/
def open? {columns rows : Nat} (g : Grid columns rows) : Option Panel :=
  if room : HasRoom columns rows then some ⟨columns, rows, g.opened, room⟩ else none

/-- Draws a plane. -/
def draw (panel : Panel) (plane : Plane) : Panel :=
  { panel with grid := panel.grid.drawPixels plane.pixels }

/-- A panel never fails. -/
instance : Display Panel where
  draw panel plane := (.ok (), panel.draw plane)

end Panel

end Chip8Console
