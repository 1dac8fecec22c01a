import Chip8Console.Proofs.PicturePoints
import Chip8Console.Terminal.Panel

/-!
# The picture on a terminal

What a terminal shows after any number of draws is the last plane that could be drawn:
each of its pixels in the cell of its own inside the box, the box, and cleared cells
around it.  So nothing of the planes before is left, and the plane can be read back from
the characters.

A draw succeeds exactly if it has a whole plane and the drawing area has room for the
picture.  A terminal of 66 columns and 34 rows has room, unless it has more cells than
a drawing area can have.  Then what is left for drawing may be too narrow or too low.

* `Grid.cell?_drawPixels`: each cell after a draw.
* `Grid.Depicts`: what it is to show a plane.
* `Grid.readPixels`: the plane that is read back.
* `Grid.drawPixels_drawPixels`: a draw hides the one before.
* `Grid.depicts_last_plane`: the main statement.
* `Grid.not_always_depicts`: a wide terminal without room.
-/

namespace Chip8Console

/-! ## Pixels inside the box -/

/-- The cell of a dark pixel. -/
def darkCell : Cell := { background := .black }

/-- The cells of the pixels lie within the picture. -/
theorem lt_of_pixel {x y : Nat} (column : x < planeWidth) (row : y < planeHeight) :
    x + 1 < boxColumns ∧ y + 1 < boxRows :=
  ⟨Nat.lt_succ_of_lt (Nat.succ_lt_succ column), Nat.lt_succ_of_lt (Nat.succ_lt_succ row)⟩

/-- There is no box where the pixels are. -/
theorem boxSymbol?_of_pixel {x y : Nat} (column : x < planeWidth) (row : y < planeHeight) :
    boxSymbol? (x + 1) (y + 1) = none := by
  have right : x + 1 ≠ boxColumns - 1 := Nat.ne_of_lt (Nat.succ_lt_succ column)
  have bottom : y + 1 ≠ boxRows - 1 := Nat.ne_of_lt (Nat.succ_lt_succ row)
  rw [boxSymbol?, if_neg (Nat.succ_ne_zero y), if_neg bottom, if_neg]
  rw [Bool.or_eq_true, decide_eq_true_eq, decide_eq_true_eq]
  rintro (left | over_right)
  · cases left
  · exact right over_right

namespace Canvas

/-- One of the points within the bounds belongs to a column and a row of the picture. -/
def marks (c : Canvas) (points : List Point) (column row : Nat) : Bool :=
  points.any fun p => c.holds p && decide (column = p.across + 1 ∧ row = p.down + 1)

/-- The points within the bounds lie inside the box. -/
theorem inside_of_marks {points : List Point} {column row : Nat}
    (marked : plane.marks points column row = true) :
    (column < boxColumns ∧ row < boxRows) ∧ boxSymbol? column row = none := by
  obtain ⟨p, _, held⟩ := List.any_eq_true.1 marked
  rw [Bool.and_eq_true, holds, Bool.and_eq_true] at held
  obtain ⟨⟨across, down⟩, here⟩ := held
  have inColumns : p.across < planeWidth := Nat.lt_succ_of_le (of_decide_eq_true across)
  have inRows : p.down < planeHeight := Nat.lt_succ_of_le (of_decide_eq_true down)
  obtain ⟨rfl, rfl⟩ := of_decide_eq_true here
  exact ⟨lt_of_pixel inColumns inRows, boxSymbol?_of_pixel inColumns inRows⟩

/-- The points of a plane belong to the columns and rows of its lit pixels. -/
theorem marks_points {pixels : List Bool} {x y : Nat} (column : x < planeWidth)
    (row : y < planeHeight) :
    plane.marks (plane.points pixels) (x + 1) (y + 1) = true
      ↔ pixels[y * planeWidth + x]? = some true := by
  rw [marks, List.any_eq_true]
  constructor
  · rintro ⟨p, listed, held⟩
    obtain ⟨position, lit, rfl⟩ := mem_points.1 listed
    obtain ⟨right, below⟩ := of_decide_eq_true (Bool.and_eq_true _ _ ▸ held).2
    have across : x = position % planeWidth := Nat.succ.inj right
    have down : y = position / planeWidth := Nat.succ.inj below
    rw [across, down, Nat.div_add_mod']
    exact lit
  · intro lit
    have at_place : plane.point (y * planeWidth + x) = ⟨x, y⟩ :=
      point_position (c := plane) (p := ⟨x, y⟩) column
    refine ⟨⟨x, y⟩, mem_points.2 ⟨_, lit, at_place⟩, ?_⟩
    rw [Bool.and_eq_true, holds, Bool.and_eq_true]
    refine ⟨⟨decide_eq_true ?_, decide_eq_true ?_⟩, decide_eq_true ⟨rfl, rfl⟩⟩
    · exact Nat.le_pred_of_lt column
    · exact Nat.le_pred_of_lt row

end Canvas

/-! ## Cells -/

namespace Grid

variable {columns rows : Nat}

theorem cell?_of_lt (g : Grid columns rows) {column row : Nat} (across : column < columns)
    (down : row < rows) : g.cell? column row = some g.cells[row][column] := by
  rw [cell?, Vector.getElem?_eq_getElem down, Option.bind_some,
    Vector.getElem?_eq_getElem across]

/-- Grids with the same cells and the same cursor are the same. -/
theorem eq_of_cell? {g h : Grid columns rows}
    (cells : ∀ column row, g.cell? column row = h.cell? column row)
    (cursor : g.cursorVisible = h.cursorVisible) : g = h := by
  cases g with
  | mk gridCells visible =>
    cases h with
    | mk otherCells otherVisible =>
      have same : gridCells = otherCells := by
        refine Vector.ext fun row down => Vector.ext fun column across => ?_
        have cell := cells column row
        rw [cell?_of_lt _ across down, cell?_of_lt _ across down] at cell
        exact Option.some.inj cell
      rw [same, show visible = otherVisible from cursor]

theorem cell?_blank {column row : Nat} (across : column < columns) (down : row < rows) :
    (blank columns rows).cell? column row = some {} := by
  rw [cell?_of_lt _ across down]
  simp only [blank, Vector.getElem_replicate]

theorem cell?_mapCells (g : Grid columns rows) (f : (column row : Nat) → Cell → Cell)
    (column row : Nat) :
    (g.mapCells f).cell? column row = (g.cell? column row).map (f column row) := by
  rw [cell?, cell?, mapCells, Vector.getElem?_mapIdx]
  cases g.cells[row]? with
  | none => rfl
  | some cells => exact Vector.getElem?_mapIdx

theorem cell?_paint (g : Grid columns rows) (column row : Nat) (cell : Cell) (x y : Nat) :
    (g.paint column row cell).cell? x y
      = (g.cell? x y).map fun before => if x = column ∧ y = row then cell else before := by
  rw [paint]
  by_cases sameRow : y = row
  · subst sameRow
    split
    · next inside =>
      rw [cell?, cell?, Vector.getElem?_set, if_pos rfl, Vector.getElem?_eq_getElem inside,
        Option.bind_some, Option.bind_some, Vector.getElem?_setIfInBounds]
      by_cases sameColumn : x = column
      · subst sameColumn
        simp only [if_true, and_self]
        split
        · next across => rw [Vector.getElem?_eq_getElem across, Option.map_some]
        · next beyond => rw [Vector.getElem?_eq_none (Nat.not_lt.1 beyond), Option.map_none]
      · simp only [Ne.symm sameColumn, sameColumn, false_and, if_false, Option.map_id']
    · next outside =>
      rw [cell?, Vector.getElem?_eq_none (Nat.not_lt.1 outside)]
      rfl
  · simp only [sameRow, and_false, if_false, Option.map_id']
    split
    · rw [cell?, cell?, Vector.getElem?_set, if_neg (Ne.symm sameRow)]
    · rfl

/-! ## Drawing -/

theorem cell?_paintPoint (g : Grid columns rows) (c : Canvas) (p : Point) (column row : Nat) :
    (g.paintPoint c p).cell? column row = (g.cell? column row).map fun before =>
      if c.holds p && decide (column = p.across + 1 ∧ row = p.down + 1) then litCell
      else before := by
  rw [paintPoint]
  cases c.holds p with
  | true => simp only [if_true, Bool.true_and, decide_eq_true_eq, cell?_paint]
  | false => simp only [Bool.false_eq_true, if_false, Bool.false_and, Option.map_id']

/-- Points are painted one by one, and a cell is lit if one of them belongs there. -/
theorem cell?_foldl_paintPoint (g : Grid columns rows) (c : Canvas) (points : List Point)
    (column row : Nat) :
    (points.foldl (paintPoint c) g).cell? column row = (g.cell? column row).map fun before =>
      if c.marks points column row then litCell else before := by
  induction points generalizing g with
  | nil => simp only [List.foldl_nil, Canvas.marks, List.any_nil, Bool.false_eq_true, if_false,
      Option.map_id']
  | cons p rest ih =>
    rw [List.foldl_cons, ih, cell?_paintPoint, Option.map_map]
    congr 1
    funext before
    rw [Function.comp, Canvas.marks, Canvas.marks, List.any_cons]
    cases rest.any _ with
    | true => simp only [if_true, Bool.or_true]
    | false => simp only [Bool.false_eq_true, if_false, Bool.or_false]

/-- A draw lights the cells of lit pixels.  Of the others it replaces those of the picture. -/
theorem cell?_drawPixels (g : Grid columns rows) (pixels : List Bool) (column row : Nat) :
    (g.drawPixels pixels).cell? column row = (g.cell? column row).map fun before =>
      if Canvas.plane.marks (Canvas.plane.points pixels) column row then litCell
      else if column < boxColumns ∧ row < boxRows then boxCell column row
      else before := by
  rw [drawPixels, cell?_foldl_paintPoint, drawBox, cell?_mapCells, Option.map_map]
  simp only [Function.comp_def, Bool.and_eq_true, decide_eq_true_eq]

theorem cursorVisible_drawPixels (g : Grid columns rows) (pixels : List Bool) :
    (g.drawPixels pixels).cursorVisible = g.cursorVisible := by
  have painted : ∀ (points : List Point) (h : Grid columns rows),
      (points.foldl (paintPoint Canvas.plane) h).cursorVisible = h.cursorVisible := by
    intro points
    induction points with
    | nil => exact fun h => rfl
    | cons p rest ih =>
      intro h
      rw [List.foldl_cons, ih, paintPoint]
      split
      · rw [paint]
        split <;> rfl
      · rfl
  exact painted _ _

/-- A draw hides the one before. -/
theorem drawPixels_drawPixels (g : Grid columns rows) (before pixels : List Bool) :
    (g.drawPixels before).drawPixels pixels = g.drawPixels pixels := by
  refine eq_of_cell? (fun column row => ?_) ?_
  · -- a cell of the picture is replaced whatever it was, and no other was changed before
    rw [cell?_drawPixels, cell?_drawPixels, cell?_drawPixels, Option.map_map]
    congr 1
    funext cell
    rw [Function.comp]
    split
    · rfl
    · split
      · rfl
      · next apart =>
        have unmarked : ¬Canvas.plane.marks (Canvas.plane.points before) column row = true :=
          fun marked => apart (Canvas.inside_of_marks marked).1
        rw [if_neg unmarked]
  · rw [cursorVisible_drawPixels, cursorVisible_drawPixels, cursorVisible_drawPixels]

/-! ## Draws in a row -/

/-- The terminal after a draw.  If that is not possible the cells are as before. -/
def draw (g : Grid columns rows) (pixels : List Bool) : Grid columns rows :=
  (g.drawPixels? pixels).getD g

/-- The terminal after draws in a row. -/
def drawAll (g : Grid columns rows) : List (List Bool) → Grid columns rows
  | [] => g
  | pixels :: rest => (g.draw pixels).drawAll rest

theorem drawAll_append (g : Grid columns rows) (earlier later : List (List Bool)) :
    g.drawAll (earlier ++ later) = (g.drawAll earlier).drawAll later := by
  induction earlier generalizing g with
  | nil => rfl
  | cons pixels rest ih => exact ih (g.draw pixels)

theorem draw_of_room (room : HasRoom columns rows) (g : Grid columns rows) {pixels : List Bool}
    (whole : pixels.length = planeSize) : g.draw pixels = g.drawPixels pixels := by
  rw [draw, drawPixels?, if_pos ⟨whole, room⟩, Option.getD_some]

/-- Without room or without a whole plane nothing is drawn. -/
theorem draw_refused (g : Grid columns rows) {pixels : List Bool}
    (fails : ¬(pixels.length = planeSize ∧ HasRoom columns rows)) :
    g.drawPixels? pixels = none ∧ g.draw pixels = g := by
  have refused : g.drawPixels? pixels = none := by rw [drawPixels?, if_neg fails]
  exact ⟨refused, by rw [draw, refused, Option.getD_none]⟩

theorem drawAll_of_not_whole (g : Grid columns rows) {draws : List (List Bool)}
    (none_whole : ∀ pixels ∈ draws, pixels.length ≠ planeSize) : g.drawAll draws = g := by
  induction draws with
  | nil => rfl
  | cons pixels rest ih =>
    obtain ⟨first, others⟩ := List.forall_mem_cons.1 none_whole
    rw [drawAll, (g.draw_refused fun h => first h.1).2]
    exact ih others

/-- A draw hides all before. -/
theorem drawPixels_drawAll (g : Grid columns rows) (draws : List (List Bool))
    (pixels : List Bool) : (g.drawAll draws).drawPixels pixels = g.drawPixels pixels := by
  induction draws generalizing g with
  | nil => rfl
  | cons first rest ih =>
    rw [drawAll, ih, draw, drawPixels?]
    split
    · rw [Option.getD_some, drawPixels_drawPixels]
    · rfl

/-- The last plane that could be drawn is all there is. -/
theorem drawAll_eq (room : HasRoom columns rows) (g : Grid columns rows)
    {earlier later : List (List Bool)} {last : List Bool} (whole : last.length = planeSize)
    (none_whole : ∀ pixels ∈ later, pixels.length ≠ planeSize) :
    g.drawAll (earlier ++ last :: later) = g.drawPixels last := by
  rw [drawAll_append, drawAll, drawAll_of_not_whole _ none_whole, draw_of_room room _ whole,
    drawPixels_drawAll]

/-! ## Showing a plane -/

/-- The terminal shows a plane of pixels and nothing else. -/
structure Depicts (g : Grid columns rows) (pixels : List Bool) : Prop where
  /-- Each pixel has its cell, row by row inside the box. -/
  pixel : ∀ x y lit, x < planeWidth → y < planeHeight →
    pixels[y * planeWidth + x]? = some lit →
      g.cell? (x + 1) (y + 1) = some (if lit then litCell else darkCell)
  /-- Around them is the box. -/
  box : ∀ column row symbol, column < boxColumns → row < boxRows →
    boxSymbol? column row = some symbol →
      g.cell? column row = some { symbol, background := .black }
  /-- The cells outside the picture are cleared. -/
  outside : ∀ column row, column < columns → row < rows →
    (boxColumns ≤ column ∨ boxRows ≤ row) → g.cell? column row = some {}

theorem depicts_drawPixels (room : HasRoom columns rows) (g : Grid columns rows)
    (pixels : List Bool) : (g.opened.drawPixels pixels).Depicts pixels where
  pixel x y lit column row at_place := by
    obtain ⟨across, down⟩ := lt_of_pixel column row
    rw [cell?_drawPixels, cell?_of_lt _ (Nat.lt_of_lt_of_le across room.1.1)
      (Nat.lt_of_lt_of_le down room.2.1), Option.map_some]
    congr 1
    cases lit with
    | true => rw [if_pos ((Canvas.marks_points column row).2 at_place), if_pos rfl]
    | false =>
      have unmarked :
          ¬Canvas.plane.marks (Canvas.plane.points pixels) (x + 1) (y + 1) = true := by
        rw [Canvas.marks_points column row, at_place]
        exact fun same => Bool.false_ne_true (Option.some.inj same)
      rw [if_neg unmarked, if_pos ⟨across, down⟩, boxCell, boxSymbol?_of_pixel column row]
      rfl
  box column row symbol across down drawn := by
    have unmarked : ¬Canvas.plane.marks (Canvas.plane.points pixels) column row = true := by
      intro marked
      rw [(Canvas.inside_of_marks marked).2] at drawn
      cases drawn
    rw [cell?_drawPixels, cell?_of_lt _ (Nat.lt_of_lt_of_le across room.1.1)
      (Nat.lt_of_lt_of_le down room.2.1), Option.map_some, if_neg unmarked,
      if_pos ⟨across, down⟩, boxCell, drawn]
    rfl
  outside column row across down beyond := by
    have apart : ¬(column < boxColumns ∧ row < boxRows) := by
      rintro ⟨left, above⟩
      rcases beyond with right | below
      · exact Nat.not_lt.2 right left
      · exact Nat.not_lt.2 below above
    have unmarked : ¬Canvas.plane.marks (Canvas.plane.points pixels) column row = true :=
      fun marked => apart (Canvas.inside_of_marks marked).1
    have cleared : g.opened.cell? column row = some {} := cell?_blank across down
    rw [cell?_drawPixels, cleared, Option.map_some, if_neg unmarked, if_neg apart]

/-- The plane that is read back from the characters inside the box. -/
def readPixels (g : Grid columns rows) : List Bool :=
  (List.range planeSize).map fun position =>
    (g.cell? (position % planeWidth + 1) (position / planeWidth + 1)).any fun cell =>
      cell.symbol == litCell.symbol

theorem Depicts.readPixels_eq {g : Grid columns rows} {pixels : List Bool}
    (depicts : g.Depicts pixels) (whole : pixels.length = planeSize) : g.readPixels = pixels := by
  have length : g.readPixels.length = planeSize := by
    rw [readPixels, List.length_map, List.length_range]
  refine List.ext_getElem (length.trans whole.symm) fun position inside inPixels => ?_
  have row : position / planeWidth < planeHeight :=
    Nat.div_lt_of_lt_mul (by rwa [whole] at inPixels)
  have at_place : pixels[position / planeWidth * planeWidth + position % planeWidth]?
      = some pixels[position] := by
    rw [Nat.div_add_mod', List.getElem?_eq_getElem inPixels]
  have cell := depicts.pixel _ _ _ (Nat.mod_lt position (by decide)) row at_place
  simp only [readPixels, List.getElem_map, List.getElem_range]
  rw [cell]
  cases pixels[position] <;> rfl

/-! ## Room -/

/-- A terminal that is large enough and not too large has room. -/
theorem hasRoom_of_le (wide : boxColumns ≤ columns) (high : boxRows ≤ rows)
    (within : columns * rows ≤ areaLimit) : HasRoom columns rows :=
  ⟨⟨wide, .inl within⟩, ⟨high, .inl (Nat.mul_comm rows columns ▸ within)⟩⟩

/-- **The picture on a terminal is the last plane.**  Open a terminal for drawing that has
room for the picture, whatever it showed, and draw any lists of pixels in a row.  It then
shows the last of them that is a whole plane: a lit or a dark cell for each pixel, row by
row inside the box, the box, and cleared cells around.  All is as if that plane were the
only one drawn.  The plane is read back from the characters, so after two runs of draws the
terminal is the same only if the last planes are the same.

A list of any other length cannot be drawn, and leaves the terminal as it was.  Neither can
anything if there is no room.  There is room on each terminal that has the columns and rows
of the picture, and no more cells than a drawing area. -/
theorem depicts_last_plane (g : Grid columns rows) :
    (HasRoom columns rows → ∀ (earlier later : List (List Bool)) (last : List Bool),
        last.length = planeSize → (∀ pixels ∈ later, pixels.length ≠ planeSize) →
          (g.opened.drawAll (earlier ++ last :: later)).Depicts last
            ∧ g.opened.drawAll (earlier ++ last :: later) = g.opened.draw last
            ∧ (g.opened.drawAll (earlier ++ last :: later)).readPixels = last)
      ∧ (HasRoom columns rows → ∀ (h : Grid columns rows) (earlier others : List (List Bool))
        (last other : List Bool), last.length = planeSize → other.length = planeSize →
          g.opened.drawAll (earlier ++ [last]) = h.opened.drawAll (others ++ [other]) →
            last = other)
      ∧ (∀ pixels : List Bool, pixels.length ≠ planeSize →
        g.drawPixels? pixels = none ∧ g.draw pixels = g)
      ∧ (¬HasRoom columns rows → ∀ pixels : List Bool,
        g.drawPixels? pixels = none ∧ g.draw pixels = g)
      ∧ (boxColumns ≤ columns → boxRows ≤ rows → columns * rows ≤ areaLimit →
        HasRoom columns rows) := by
  have shown (room : HasRoom columns rows) (h : Grid columns rows)
      (earlier later : List (List Bool)) (last : List Bool) (whole : last.length = planeSize)
      (none_whole : ∀ pixels ∈ later, pixels.length ≠ planeSize) :
      (h.opened.drawAll (earlier ++ last :: later)).Depicts last := by
    rw [drawAll_eq room _ whole none_whole]
    exact depicts_drawPixels room h last
  refine ⟨?_, ?_, ?_, ?_, hasRoom_of_le⟩
  · intro room earlier later last whole none_whole
    have depicts := shown room g earlier later last whole none_whole
    refine ⟨depicts, ?_, depicts.readPixels_eq whole⟩
    rw [drawAll_eq room _ whole none_whole, draw_of_room room _ whole]
  · intro room h earlier others last other whole otherWhole same
    have mine := shown room g earlier [] last whole (List.forall_mem_nil _)
    have theirs := shown room h others [] other otherWhole (List.forall_mem_nil _)
    rw [← mine.readPixels_eq whole, same, theirs.readPixels_eq otherWhole]
  · exact fun pixels other => g.draw_refused fun h => other h.1
  · exact fun narrow pixels => g.draw_refused fun h => narrow h.2

/-- Every pixel is lit. -/
def full : List Bool := List.replicate planeSize true

/-- A line goes down from the top left corner. -/
def diagonal : List Bool := (List.range planeSize).map fun position => position % 65 == 0

/-- A terminal of 80 columns and 40 rows after both, and a list that is no plane. -/
def overdrawn : Grid 80 40 := (blank 80 40).opened.drawAll [full, diagonal, [true]]

/-- The line is all that is seen. -/
theorem depicts_last_plane_overdrawn :
    overdrawn.Depicts diagonal
      ∧ overdrawn.cell? 3 3 = some litCell ∧ overdrawn.cell? 4 3 = some darkCell
      ∧ overdrawn.readPixels = diagonal
      ∧ (blank 80 40).opened.drawAll [full] ≠ (blank 80 40).opened.drawAll [full, diagonal] := by
  obtain ⟨shows, tells, _, _, room⟩ := depicts_last_plane (blank 80 40)
  have enough : HasRoom 80 40 := room (by decide) (by decide) (by decide)
  have whole : diagonal.length = planeSize := by
    rw [diagonal, List.length_map, List.length_range]
  have short : ∀ pixels ∈ [[true]], pixels.length ≠ planeSize := by
    intro pixels only
    rw [List.mem_singleton.1 only]
    decide
  obtain ⟨depicts, _, read⟩ := shows enough [full] [[true]] diagonal whole short
  have lit : diagonal[2 * planeWidth + 2]? = some true := by decide +kernel
  have dark : diagonal[2 * planeWidth + 3]? = some false := by decide +kernel
  refine ⟨depicts, depicts.pixel 2 2 true (by decide) (by decide) lit,
    depicts.pixel 3 2 false (by decide) (by decide) dark, read, ?_⟩
  intro same
  have equal := tells enough (blank 80 40) [] [full] full diagonal List.length_replicate whole same
  exact absurd (congrArg (·[1]?) equal) (by decide +kernel)

/-- Not every terminal of 66 columns and 34 rows has room.  With 1928 columns there are more
cells than in a drawing area, and one of its proportions has only 33 rows. -/
theorem not_always_depicts :
    ¬∀ columns rows : Nat, boxColumns ≤ columns → boxRows ≤ rows →
      ∀ (g : Grid columns rows) (earlier : List (List Bool)) (last : List Bool),
        (∀ pixels ∈ earlier, pixels.length = planeSize) → last.length = planeSize →
          (g.opened.drawAll (earlier ++ [last])).Depicts last := by
  intro always
  have narrow : ¬HasRoom 1928 34 := by decide
  have refused : (blank 1928 34).opened.draw full = (blank 1928 34).opened :=
    ((blank 1928 34).opened.draw_refused fun h => narrow h.2).2
  have depicts := always 1928 34 (by decide) (by decide) (blank 1928 34) [] full
    (List.forall_mem_nil _) List.length_replicate
  rw [List.nil_append, drawAll, drawAll, refused] at depicts
  have corner := depicts.box 0 0 '┌' (by decide) (by decide) rfl
  rw [show (blank 1928 34).opened.cell? 0 0 = some {} from cell?_blank (by decide) (by decide)]
    at corner
  exact absurd corner (by decide)

end Grid

end Chip8Console
