import Chip8Console.Proofs.ExactTimes
import Chip8Console.Terminal.Canvas
import Mathlib.Data.List.Induction
import Mathlib.Data.List.Nodup

/-!
# The points of a picture

A picture goes to a canvas as the points of its lit pixels.  A point has the column of its
pixel, and below the origin the row.  With the length of a row the two make up the position
of the pixel, so nothing is lost.  Whoever knows the length of a row and the number of pixels
can draw the picture again, and may take the points in any order.

The coordinates of a point are whole numbers, the second one not positive.  Its canvas gets
them as binary64 numbers.  Those are not rounded unless there are more than `2^53` pixels.

* `Point.coordinates`: the coordinates of a point.
* `Canvas.litPositions`: the positions of the lit pixels, in increasing order.
* `Canvas.points_eq_map`: each of them has one point.
* `Canvas.holds_point_iff`: the bounds of a canvas hold the positions of its pixels.
* `Canvas.pictureOf`: the picture that is drawn from coordinates.
* `Canvas.points_tell_picture`: the main statement.
-/

namespace Chip8Console

/-! ## Points and positions -/

namespace Point

/-- The coordinates of a point.  The second axis points upwards. -/
def coordinates (p : Point) : Int × Int := (p.across, -p.down)

/-- The point with given coordinates, which is to the right of the origin and below it. -/
def ofCoordinates (place : Int × Int) : Point := ⟨place.1.toNat, (-place.2).toNat⟩

@[simp] theorem ofCoordinates_coordinates (p : Point) : ofCoordinates p.coordinates = p := by
  simp only [coordinates, ofCoordinates, Int.neg_neg, Int.toNat_natCast]

theorem coordinates_injective : Function.Injective coordinates :=
  Function.LeftInverse.injective ofCoordinates_coordinates

/-- The position of the pixel at a point, in rows of a given width. -/
def position (width : Nat) (p : Point) : Nat := p.down * width + p.across

end Point

namespace Canvas

@[simp] theorem position_point (c : Canvas) (position : Nat) :
    (c.point position).position c.width = position := Nat.div_add_mod' position c.width

/-- Pixels at different positions have different points. -/
theorem point_injective (c : Canvas) : Function.Injective c.point :=
  Function.LeftInverse.injective c.position_point

/-- A point in the columns of a canvas is the point of its position. -/
theorem point_position {c : Canvas} {p : Point} (column : p.across < c.width) :
    c.point (p.position c.width) = p := by
  have across : p.position c.width % c.width = p.across := Nat.mul_add_mod_of_lt column
  have down : p.position c.width / c.width = p.down := by
    rw [Point.position, Nat.mul_comm, Nat.mul_add_div (Nat.zero_lt_of_lt column),
      Nat.div_eq_of_lt column, Nat.add_zero]
  rw [point, across, down]

/-- The bounds, said of the coordinates. -/
theorem holds_iff {c : Canvas} {p : Point} :
    c.holds p = true ↔ (0 ≤ p.coordinates.1 ∧ p.coordinates.1 ≤ c.right)
      ∧ (-(c.bottom : Int) ≤ p.coordinates.2 ∧ p.coordinates.2 ≤ 0) := by
  rw [holds, Bool.and_eq_true, decide_eq_true_eq, decide_eq_true_eq, Point.coordinates]
  omega

/-- The bounds hold the points of as many pixels as the canvas has, and no others. -/
theorem holds_point_iff {c : Canvas} (wide : 0 < c.width) (high : 0 < c.height)
    (position : Nat) : c.holds (c.point position) = true ↔ position < c.width * c.height := by
  have column : position % c.width ≤ c.right := Nat.le_pred_of_lt (Nat.mod_lt position wide)
  have row : position / c.width ≤ c.bottom ↔ position / c.width < c.height :=
    (Nat.lt_iff_le_pred high).symm
  rw [holds, Bool.and_eq_true, decide_eq_true_eq, decide_eq_true_eq, point, row,
    Nat.div_lt_iff_lt_mul wide, Nat.mul_comm]
  exact and_iff_right column

/-! ## Lit pixels -/

/-- The positions of the lit pixels, in increasing order. -/
def litPositions (pixels : List Bool) : List Nat :=
  (List.range pixels.length).filter fun position => pixels[position]? = some true

theorem mem_litPositions {pixels : List Bool} {position : Nat} :
    position ∈ litPositions pixels ↔ pixels[position]? = some true := by
  rw [litPositions, List.mem_filter, List.mem_range, decide_eq_true_eq]
  refine and_iff_right_of_imp fun lit => ?_
  exact (List.getElem?_eq_some_iff.1 lit).1

theorem pairwise_litPositions (pixels : List Bool) : (litPositions pixels).Pairwise (· < ·) :=
  List.pairwise_lt_range.filter _

theorem litPositions_concat (pixels : List Bool) (lit : Bool) :
    litPositions (pixels ++ [lit])
      = litPositions pixels ++ if lit then [pixels.length] else [] := by
  have before : (List.range pixels.length).filter
        (fun position => (pixels ++ [lit])[position]? = some true) = litPositions pixels := by
    refine List.filter_congr fun position inside => ?_
    rw [List.getElem?_append_left (List.mem_range.1 inside)]
  have last : (pixels ++ [lit])[pixels.length]? = some lit := List.getElem?_concat_length
  rw [litPositions, List.length_append, List.length_singleton, List.range_succ,
    List.filter_append, before, List.filter_singleton, last]
  cases lit with
  | true => rfl
  | false => rfl

theorem points_concat (c : Canvas) (pixels : List Bool) (lit : Bool) :
    c.points (pixels ++ [lit])
      = c.points pixels ++ if lit then [c.point pixels.length] else [] := by
  rw [points, List.zipIdx_append, List.filterMap_append, ← points, Nat.zero_add]
  cases lit with
  | true => rfl
  | false => rfl

/-- Each lit pixel has one point, in the order of the pixels. -/
theorem points_eq_map (c : Canvas) (pixels : List Bool) :
    c.points pixels = (litPositions pixels).map c.point := by
  induction pixels using List.reverseRecOn with
  | nil => rfl
  | append_singleton pixels lit ih =>
    rw [points_concat, litPositions_concat, List.map_append, ih]
    cases lit with
    | true => rfl
    | false => rfl

/-- Each lit pixel has its point, and no other has one. -/
theorem mem_points {c : Canvas} {pixels : List Bool} {p : Point} :
    p ∈ c.points pixels ↔ ∃ position, pixels[position]? = some true ∧ c.point position = p := by
  simp only [points_eq_map, List.mem_map, mem_litPositions]

theorem nodup_points (c : Canvas) (pixels : List Bool) : (c.points pixels).Nodup := by
  have apart : (litPositions pixels).Nodup := (pairwise_litPositions pixels).imp Nat.ne_of_lt
  rw [points_eq_map]
  exact apart.map c.point_injective

/-- A picture that is not larger than the canvas stays within the bounds. -/
theorem holds_of_mem_points {c : Canvas} {pixels : List Bool} (wide : 0 < c.width)
    (high : 0 < c.height) (fits : pixels.length ≤ c.width * c.height) {p : Point}
    (listed : p ∈ c.points pixels) : c.holds p = true := by
  obtain ⟨position, lit, rfl⟩ := mem_points.1 listed
  rw [holds_point_iff wide high]
  exact Nat.lt_of_lt_of_le (List.getElem?_eq_some_iff.1 lit).1 fits

/-! ## Drawing from coordinates -/

/-- The coordinates of the lit pixels, as they go to the canvas. -/
def places (c : Canvas) (pixels : List Bool) : List (Int × Int) :=
  (c.points pixels).map Point.coordinates

/-- The picture with the pixel lit that has these coordinates. -/
def light (width : Nat) (pixels : List Bool) (place : Int × Int) : List Bool :=
  pixels.set ((Point.ofCoordinates place).position width) true

/-- A dark picture of so many pixels, in which the given pixels are lit one after another. -/
def pictureOf (width count : Nat) (given : List (Int × Int)) : List Bool :=
  given.foldl (light width) (List.replicate count false)

theorem getElem?_light (width : Nat) (pixels : List Bool) (place : Int × Int) (position : Nat) :
    (light width pixels place)[position]? = pixels[position]?.map fun lit =>
      lit || decide ((Point.ofCoordinates place).position width = position) := by
  rw [light, List.getElem?_set']
  by_cases here : (Point.ofCoordinates place).position width = position
  · simp only [if_pos here, decide_eq_true here, Bool.or_true]
    rfl
  · simp only [if_neg here, decide_eq_false here, Bool.or_false, Option.map_id']

/-- A pixel is lit in the end if it was before or one of the places is its own. -/
theorem getElem?_foldl_light (width : Nat) (pixels : List Bool) (given : List (Int × Int))
    (position : Nat) :
    (given.foldl (light width) pixels)[position]? = pixels[position]?.map fun lit =>
      lit || given.any fun place => (Point.ofCoordinates place).position width = position := by
  induction given generalizing pixels with
  | nil => simp only [List.foldl_nil, List.any_nil, Bool.or_false, Option.map_id']
  | cons place rest ih =>
    rw [List.foldl_cons, ih, getElem?_light, Option.map_map]
    simp only [Function.comp_def, List.any_cons, Bool.or_assoc]

theorem getElem?_pictureOf {width count position : Nat} (inside : position < count)
    (given : List (Int × Int)) :
    (pictureOf width count given)[position]? = some (given.any fun place =>
      (Point.ofCoordinates place).position width = position) := by
  rw [pictureOf, getElem?_foldl_light, List.getElem?_replicate, if_pos inside, Option.map_some,
    Bool.false_or]

theorem length_pictureOf (width count : Nat) (given : List (Int × Int)) :
    (pictureOf width count given).length = count := by
  suffices kept : ∀ pixels : List Bool,
      (given.foldl (light width) pixels).length = pixels.length by
    rw [pictureOf, kept, List.length_replicate]
  induction given with
  | nil => exact fun pixels => rfl
  | cons place rest ih =>
    intro pixels
    rw [List.foldl_cons, ih, light, List.length_set]

/-- The coordinates of the lit pixels light these pixels and no others. -/
theorem any_places_iff {c : Canvas} {pixels : List Bool} {given : List (Int × Int)}
    (same : ∀ place, place ∈ given ↔ place ∈ c.places pixels) (position : Nat) :
    (given.any fun place => (Point.ofCoordinates place).position c.width = position) = true
      ↔ pixels[position]? = some true := by
  simp only [List.any_eq_true, decide_eq_true_eq, same, places, List.mem_map, mem_points]
  constructor
  · rintro ⟨_, ⟨_, ⟨lit_position, lit, rfl⟩, rfl⟩, here⟩
    rw [Point.ofCoordinates_coordinates, position_point] at here
    rwa [← here]
  · intro lit
    refine ⟨_, ⟨_, ⟨position, lit, rfl⟩, rfl⟩, ?_⟩
    rw [Point.ofCoordinates_coordinates, position_point]

/-- From the coordinates of its lit pixels a picture is drawn again.  Order and repetition
are of no account. -/
theorem pictureOf_places {c : Canvas} {pixels : List Bool} {given : List (Int × Int)}
    (same : ∀ place, place ∈ given ↔ place ∈ c.places pixels) :
    pictureOf c.width pixels.length given = pixels := by
  refine List.ext_getElem (length_pictureOf _ _ _) fun position _ inside => ?_
  have drawn : (pictureOf c.width pixels.length given)[position]? = some _ :=
    getElem?_pictureOf inside given
  rw [List.getElem?_eq_getElem (by rwa [length_pictureOf])] at drawn
  rw [Option.some.inj drawn, Bool.eq_iff_iff, any_places_iff same,
    List.getElem?_eq_getElem inside, Option.some.injEq]

/-! ## Binary64 coordinates -/

/-- The coordinates of up to `2^53` pixels are not rounded. -/
theorem ofInt_of_mem_points {c : Canvas} {pixels : List Bool}
    (few : pixels.length ≤ 0x20000000000000) {p : Point} (listed : p ∈ c.points pixels) :
    Binary64.ofInt p.across = .finite (p.coordinates.1 * Binary64.unitsPerOne)
      ∧ (Binary64.ofInt p.down).neg = .finite (p.coordinates.2 * Binary64.unitsPerOne) := by
  obtain ⟨position, lit, rfl⟩ := mem_points.1 listed
  have small : position < 0x20000000000000 :=
    Nat.lt_of_lt_of_le (List.getElem?_eq_some_iff.1 lit).1 few
  have whole (n : Nat) (within : n ≤ position) :
      Binary64.ofInt n = .finite (n * Binary64.unitsPerOne) :=
    @Binary64.ofRatio_whole n (Nat.lt_of_le_of_lt within small)
  have across := whole _ (Nat.mod_le position c.width)
  have down := whole _ (Nat.div_le_self position c.width)
  refine ⟨across, ?_⟩
  rw [point, down, Binary64.neg, Point.coordinates, Int.neg_mul]

/-! ## The points tell the picture -/

/-- **The points of a picture tell all of it.**  Take any canvas that is not empty, and a
picture of no more pixels than the canvas has.  Then

* each lit pixel has one point, in the order of the pixels and none twice.  Its coordinates
  are the column, and the row taken negative;
* the points lie within the bounds.  The bounds are as narrow as they can be, for they hold
  the points of all positions of the canvas and of no other;
* from the length of a row, the number of pixels and the coordinates, in any order, the
  picture is drawn again;
* another picture of as many pixels has other points;
* as binary64 numbers the coordinates are not rounded, up to `2^53` pixels. -/
theorem points_tell_picture (c : Canvas) (wide : 0 < c.width) (high : 0 < c.height)
    (pixels : List Bool) (fits : pixels.length ≤ c.width * c.height) :
    (c.places pixels = (litPositions pixels).map fun position : Nat =>
        (((position % c.width : Nat) : Int), -((position / c.width : Nat) : Int)))
      ∧ ((litPositions pixels).Pairwise (· < ·)
        ∧ ∀ position, position ∈ litPositions pixels ↔ pixels[position]? = some true)
      ∧ (c.places pixels).Nodup
      ∧ (∀ place ∈ c.places pixels, (0 ≤ place.1 ∧ place.1 ≤ c.right)
        ∧ (-(c.bottom : Int) ≤ place.2 ∧ place.2 ≤ 0))
      ∧ (∀ position, c.holds (c.point position) = true ↔ position < c.width * c.height)
      ∧ (∀ given : List (Int × Int), (∀ place, place ∈ given ↔ place ∈ c.places pixels) →
        pictureOf c.width pixels.length given = pixels)
      ∧ (∀ others : List Bool, others.length = pixels.length → others ≠ pixels →
        ∃ place, ¬(place ∈ c.places others ↔ place ∈ c.places pixels))
      ∧ (pixels.length ≤ 0x20000000000000 → ∀ p ∈ c.points pixels,
        Binary64.ofInt p.across = .finite (p.coordinates.1 * Binary64.unitsPerOne)
          ∧ (Binary64.ofInt p.down).neg
            = .finite (p.coordinates.2 * Binary64.unitsPerOne)) := by
  refine ⟨?_, ⟨pairwise_litPositions pixels, fun _ => mem_litPositions⟩,
    (nodup_points c pixels).map Point.coordinates_injective, ?_, holds_point_iff wide high,
    fun given same => pictureOf_places same, ?_, fun few p listed => ofInt_of_mem_points few listed⟩
  · rw [places, points_eq_map, List.map_map]
    rfl
  · intro place listed
    obtain ⟨p, among, rfl⟩ := List.mem_map.1 listed
    exact holds_iff.1 (holds_of_mem_points wide high fits among)
  · intro others same_length differ
    by_contra same
    have agree := not_exists_not.1 same
    -- both are drawn from the places of the second
    have drawn : pictureOf c.width others.length (c.places pixels) = others :=
      pictureOf_places fun place => (agree place).symm
    rw [same_length, pictureOf_places fun place => Iff.rfl] at drawn
    exact differ drawn.symm

/-- Rows of five pixels, the third one cut short. -/
def ragged : List Bool :=
  [false, true, false, false, true,
   true, false, false, false, false,
   false, false, true]

/-- It is drawn again from its last point to the first, and without the last one it has other
points. -/
theorem points_tell_picture_ragged :
    places ⟨5, 3⟩ ragged = [(1, 0), (4, 0), (0, -1), (2, -2)]
      ∧ (2, -2) ∈ places ⟨5, 3⟩ ragged ∧ -((Canvas.mk 5 3).bottom : Int) ≤ -2
      ∧ pictureOf 5 13 [(2, -2), (0, -1), (4, 0), (1, 0)] = ragged
      ∧ (∃ place, ¬(place ∈ places ⟨5, 3⟩ (ragged.set 12 false) ↔ place ∈ places ⟨5, 3⟩ ragged))
      ∧ (Binary64.ofInt 2).neg = .finite (-2 * Binary64.unitsPerOne) := by
  obtain ⟨listed, _, _, within, _, recovered, differs, whole⟩ :=
    points_tell_picture ⟨5, 3⟩ (by decide) (by decide) ragged (by decide)
  have places_eq : places ⟨5, 3⟩ ragged = [(1, 0), (4, 0), (0, -1), (2, -2)] :=
    listed.trans (by decide)
  have last : (2, -2) ∈ places ⟨5, 3⟩ ragged := by
    rw [places_eq]
    decide
  refine ⟨places_eq, last, (within _ last).2.1, recovered _ fun place => ?_,
    differs _ rfl (by decide), (whole (by decide) ⟨2, 2⟩ (by decide)).2⟩
  rw [places_eq]
  exact List.Perm.mem_iff (by decide)

end Canvas

end Chip8Console
