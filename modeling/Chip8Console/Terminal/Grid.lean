/-!
# Cell grids

The face of a terminal: a grid of cells, each with a character and two colours,
and a cursor that may be hidden.  Columns are counted from the left and rows
from the top.
-/

namespace Chip8Console

/-- A colour of a cell. -/
inductive Color where
  /-- Whatever the terminal uses by itself. -/
  | reset
  | white
  | black
  deriving DecidableEq

/-- One cell of a terminal. -/
structure Cell where
  /-- The character it shows. -/
  symbol : Char := ' '
  /-- The colour of the character. -/
  foreground : Color := .reset
  /-- The colour behind it. -/
  background : Color := .reset
  deriving DecidableEq

/-- The face of a terminal with so many columns and rows. -/
structure Grid (columns rows : Nat) where
  /-- The cells, row by row. -/
  cells : Vector (Vector Cell columns) rows
  /-- The cursor can be seen. -/
  cursorVisible : Bool := true

namespace Grid

variable {columns rows : Nat}

/-- The face of a fresh terminal. -/
def blank (columns rows : Nat) : Grid columns rows where
  cells := Vector.replicate rows (Vector.replicate columns {})

/-- The cell in a column and a row, if there is one. -/
def cell? (g : Grid columns rows) (column row : Nat) : Option Cell :=
  g.cells[row]?.bind fun cells => cells[column]?

/-- The grid with each cell exchanged according to its column and row. -/
def mapCells (g : Grid columns rows) (f : (column row : Nat) → Cell → Cell) :
    Grid columns rows :=
  { g with cells := g.cells.mapIdx fun row cells => cells.mapIdx fun column => f column row }

/-- The grid with one cell exchanged.  Outside the grid nothing happens. -/
def paint (g : Grid columns rows) (column row : Nat) (cell : Cell) : Grid columns rows :=
  if inside : row < rows then
    { g with cells := g.cells.set row (g.cells[row].setIfInBounds column cell) }
  else g

/-- The text of a line of cells, without the spaces at its end. -/
def lineText (cells : Vector Cell columns) : String :=
  String.ofList ((cells.toList.map Cell.symbol).reverse.dropWhile (· == ' ')).reverse

/-- The text of each row, without the empty rows at the bottom. -/
def texts (g : Grid columns rows) : List String :=
  ((g.cells.toList.map lineText).reverse.dropWhile (·.isEmpty)).reverse

end Grid

end Chip8Console
