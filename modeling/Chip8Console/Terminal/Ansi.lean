import Chip8Console.Terminal.Grid

/-!
# Cell grids as control sequences

The text that makes a terminal show a grid: the cursor is sent to the start of
each row, and a change of colours is sent before the first cell that needs it.
-/

namespace Chip8Console.Ansi

/-- The start of every control sequence. -/
def start : String := "\x1b["

/-- The sequence that chooses the colours of a cell. -/
def colors (cell : Cell) : String :=
  let foreground := match cell.foreground with
    | .reset => "39"
    | .white => "37"
    | .black => "30"
  let background := match cell.background with
    | .reset => "49"
    | .white => "47"
    | .black => "40"
  start ++ foreground ++ ";" ++ background ++ "m"

/-- The text of the cells of a row, after a cell of the given look. -/
def cells (before : Cell) : List Cell → String
  | [] => ""
  | cell :: rest =>
      (if cell.foreground = before.foreground && cell.background = before.background then ""
        else colors cell) ++ String.singleton cell.symbol ++ cells cell rest

/-- The text of a row. -/
def line (row : Nat) (content : List Cell) : String :=
  start ++ toString (row + 1) ++ ";1H" ++ colors {} ++ cells {} content

/-- The text of a grid, with its cursor. -/
def grid {columns rows : Nat} (g : Grid columns rows) : String :=
  String.join (g.cells.toList.zipIdx.map fun (content, row) => line row content.toList) ++
    colors {} ++ start ++ (if g.cursorVisible then "?25h" else "?25l")

end Chip8Console.Ansi
