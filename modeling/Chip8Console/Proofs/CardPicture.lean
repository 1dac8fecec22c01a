import Chip8Console.Proofs.InstalledImages
import Chip8Console.Proofs.Pictures
import Chip8Console.TestCard
import Mathlib.Data.List.Nodup
import Mathlib.Data.Nat.Bitwise

/-!
# The picture of the test card

The picture has the sixteen digits of the font in two rows, and at most one more
digit below them.  It is said here from the font alone: which pixel of the plane
belongs to which row and which bit of which glyph.

The test card draws it by flipping pixels, at places and distances that are bytes.
Their sums stay on the plane, so no digit wraps around at an edge.  No two digits
meet, so no pixel is flipped twice.

* `TestCard.inGlyph`, `TestCard.Shows`: glyphs and the picture, from the font.
* `TestCard.HoldsFont`: memories that have the font at its address.
* `TestCard.glyphPixels_of_holdsFont`, `TestCard.mem_digitPixels`: the pixels that the
  test card takes for a digit.
* `TestCard.OnPlane`: places from which no digit leaves the plane.
* `TestCard.nodup_pixels`: no pixel is flipped twice.
* `TestCard.shows_picture`: what the flipped pixels come to.
-/

namespace Chip8Console.TestCard

/-! ## The picture -/

/-- The glyph of a digit has a pixel in a column and a row.  Columns count from the
left, rows from the top. -/
def inGlyph (digit : KeyId) (column row : Nat) : Bool :=
  column < 4 && row < glyphHeight
    && (font[digit.val * glyphHeight + row]?.getD 0).toNat.testBit (7 - column)

theorem lt_of_inGlyph {digit : KeyId} {column row : Nat} (lit : inGlyph digit column row = true) :
    column < 4 ∧ row < glyphHeight := by
  simp only [inGlyph, Bool.and_eq_true, decide_eq_true_eq] at lit
  exact lit.1

/-- So it has if its top left corner is at a place of the plane. -/
def covers (digit : KeyId) (left top x y : Nat) : Bool :=
  left ≤ x && top ≤ y && inGlyph digit (x - left) (y - top)

/-- The plane has the sixteen digits, and below them at most one more.  No other
pixel is lit. -/
def Shows (shown : Option KeyId) (p : Plane) : Prop :=
  ∀ x y, x < planeWidth → y < planeHeight →
    (p.getLsbD (y * planeWidth + x) = true
      ↔ (∃ digit : KeyId, covers digit (2 + 8 * (digit.val % 8)) (4 + 8 * (digit.val / 8)) x y)
        ∨ ∃ digit, shown = some digit ∧ covers digit 30 22 x y)

/-! ## Glyphs in memory -/

/-- The memory has the font at its address. -/
def HoldsFont (memory : Memory) : Prop :=
  ∀ place < font.length, memory.byte? (fontAddress.toNat + place) = font[place]?

/-- The program goes behind the font, however long it is. -/
theorem holdsFont_of_install {m memory : Memory} {program : Bytes}
    (written : m.install program = (.ok (), memory)) : HoldsFont memory := by
  intro place inside
  have below : fontAddress.toNat + font.length ≤ programAddress.toNat := by decide
  rw [(Memory.byte?_install written).2, if_neg (by omega), if_pos (by omega),
    Nat.add_sub_cancel_left]

theorem mem_columns {bit : UInt8} : bit ∈ ([0, 1, 2, 3] : List UInt8) ↔ bit.toNat < 4 := by
  simp only [List.mem_cons, List.not_mem_nil, or_false, ← UInt8.toNat_inj]
  show (bit.toNat = 0 ∨ bit.toNat = 1 ∨ bit.toNat = 2 ∨ bit.toNat = 3) ↔ bit.toNat < 4
  omega

theorem mem_rows {row : UInt8} :
    row ∈ ([0, 1, 2, 3, 4] : List UInt8) ↔ row.toNat < glyphHeight := by
  simp only [List.mem_cons, List.not_mem_nil, or_false, ← UInt8.toNat_inj]
  show (row.toNat = 0 ∨ row.toNat = 1 ∨ row.toNat = 2 ∨ row.toNat = 3 ∨ row.toNat = 4)
    ↔ row.toNat < 5
  omega

/-- The pixels of a row are the high bits of its byte, from the highest on. -/
theorem mem_rowPixels {bits bit : UInt8} :
    bit ∈ rowPixels bits ↔ bit.toNat < 4 ∧ bits.toNat.testBit (7 - bit.toNat) = true := by
  have mask : ∀ bit ∈ ([0, 1, 2, 3] : List UInt8),
      ((0x80 : UInt8) >>> bit).toNat = 2 ^ (7 - bit.toNat) := by decide +kernel
  rw [rowPixels, List.mem_filter, ← mem_columns]
  refine and_congr_right fun column => ?_
  rw [decide_eq_true_eq, Ne, ← UInt8.toNat_inj, UInt8.toNat_and, mask bit column, Nat.and_two_pow]
  cases bits.toNat.testBit (7 - bit.toNat) with
  | true => simp
  | false => simp

/-- The pixels of a digit as the font has them. -/
def digitPixels (digit : KeyId) : List (UInt8 × UInt8) :=
  [0, 1, 2, 3, 4].flatMap fun row : UInt8 =>
    (rowPixels (font[digit.val * glyphHeight + row.toNat]?.getD 0)).map fun bit => (bit, row)

/-- The test card takes them out of a memory that holds the font. -/
theorem glyphPixels_of_holdsFont {memory : Memory} (holds : HoldsFont memory) (digit : KeyId) :
    glyphPixels memory digit = digitPixels digit := by
  refine List.flatMap_congr fun row listed => ?_
  have height : row.toNat < glyphHeight := mem_rows.1 listed
  have inside : digit.val * glyphHeight + row.toNat < font.length := by
    rw [length_font]
    unfold glyphHeight at height ⊢
    omega
  have same := holds _ inside
  rw [← Nat.add_assoc] at same
  simp only [same]

theorem mem_digitPixels {digit : KeyId} {pixel : UInt8 × UInt8} :
    pixel ∈ digitPixels digit ↔ inGlyph digit pixel.1.toNat pixel.2.toNat = true := by
  obtain ⟨column, row⟩ := pixel
  simp only [digitPixels, List.mem_flatMap, List.mem_map, mem_rows, mem_rowPixels, Prod.mk.injEq,
    inGlyph, Bool.and_eq_true, decide_eq_true_eq]
  constructor
  · rintro ⟨row, height, column, ⟨width, lit⟩, rfl, rfl⟩
    exact ⟨⟨width, height⟩, lit⟩
  · rintro ⟨⟨width, height⟩, lit⟩
    exact ⟨row, height, column, ⟨width, lit⟩, rfl, rfl⟩

theorem lt_of_mem_digitPixels {digit : KeyId} {pixel : UInt8 × UInt8}
    (listed : pixel ∈ digitPixels digit) :
    pixel.1.toNat < 4 ∧ pixel.2.toNat < glyphHeight :=
  lt_of_inGlyph (mem_digitPixels.1 listed)

/-- Whatever the memory holds, a digit has four columns and five rows. -/
theorem lt_of_mem_glyphPixels {memory : Memory} {digit : KeyId} {pixel : UInt8 × UInt8}
    (listed : pixel ∈ glyphPixels memory digit) :
    pixel.1.toNat < 4 ∧ pixel.2.toNat < glyphHeight := by
  obtain ⟨row, height, listed⟩ := List.mem_flatMap.1 listed
  obtain ⟨bit, lit, rfl⟩ := List.mem_map.1 listed
  exact ⟨(mem_rowPixels.1 lit).1, mem_rows.1 height⟩

/-! ## Digits at their places -/

/-- From a place with its top left corner a digit stays on the plane. -/
structure OnPlane (place : UInt8 × UInt8) : Prop where
  columns : place.1.toNat + 4 ≤ planeWidth
  rows : place.2.toNat + glyphHeight ≤ planeHeight

/-- The coordinates of a digit at a place are sums of bytes, and a byte holds them. -/
def Exact (memory : Memory) (digit : KeyId) (place : UInt8 × UInt8) : Prop :=
  ∀ pixel ∈ glyphPixels memory digit,
    (place.1 + pixel.1).toNat = place.1.toNat + pixel.1.toNat
      ∧ (place.2 + pixel.2).toNat = place.2.toNat + pixel.2.toNat

/-- The pixels of a digit at a place. -/
def placed (digit : KeyId) (place : UInt8 × UInt8) : List (UInt8 × UInt8) :=
  (digitPixels digit).map fun (x, y) => (place.1 + x, place.2 + y)

/-- The sums of a place and the distances of a pixel are not too large for a byte. -/
theorem toNat_add_pixel {place pixel : UInt8 × UInt8} (on : OnPlane place)
    (near : pixel.1.toNat < 4 ∧ pixel.2.toNat < glyphHeight) :
    (place.1 + pixel.1).toNat = place.1.toNat + pixel.1.toNat
      ∧ (place.2 + pixel.2).toNat = place.2.toNat + pixel.2.toNat := by
  obtain ⟨column, row⟩ := near
  obtain ⟨columns, rows⟩ := on
  unfold planeWidth at columns
  unfold planeHeight at rows
  rw [UInt8.toNat_add, UInt8.toNat_add]
  omega

theorem exact_of_onPlane {place : UInt8 × UInt8} (on : OnPlane place) (memory : Memory)
    (digit : KeyId) : Exact memory digit place :=
  fun _ listed => toNat_add_pixel on (lt_of_mem_glyphPixels listed)

/-- So a pixel of a digit comes where the font has it, moved to the place. -/
theorem position_of_placed {place pixel : UInt8 × UInt8} {digit : KeyId} (on : OnPlane place)
    (listed : pixel ∈ digitPixels digit) :
    Plane.position (place.1 + pixel.1, place.2 + pixel.2)
      = (place.2.toNat + pixel.2.toNat) * planeWidth + (place.1.toNat + pixel.1.toNat) := by
  obtain ⟨across, down⟩ := toNat_add_pixel on (lt_of_mem_digitPixels listed)
  obtain ⟨column, row⟩ := lt_of_mem_digitPixels listed
  obtain ⟨columns, rows⟩ := on
  rw [Plane.position, Plane.index, across, down, Nat.mod_eq_of_lt (by omega),
    Nat.mod_eq_of_lt (by omega)]

/-- A digit at a place covers the positions of its pixels. -/
theorem mem_position_placed {place : UInt8 × UInt8} (on : OnPlane place) {digit : KeyId}
    {x y : Nat} (width : x < planeWidth) :
    y * planeWidth + x ∈ (placed digit place).map Plane.position
      ↔ covers digit place.1.toNat place.2.toNat x y = true := by
  simp only [placed, List.map_map, List.mem_map, Function.comp_apply, covers, Bool.and_eq_true,
    decide_eq_true_eq]
  constructor
  · rintro ⟨pixel, listed, same⟩
    have column := (lt_of_mem_digitPixels listed).1
    have columns := on.columns
    rw [position_of_placed on listed] at same
    -- a position has one column and one row
    have here : place.1.toNat + pixel.1.toNat = x ∧ place.2.toNat + pixel.2.toNat = y := by
      unfold planeWidth at same columns width
      omega
    obtain ⟨rfl, rfl⟩ := here
    rw [Nat.add_sub_cancel_left, Nat.add_sub_cancel_left, ← mem_digitPixels]
    exact ⟨⟨Nat.le_add_right _ _, Nat.le_add_right _ _⟩, listed⟩
  · rintro ⟨⟨left, top⟩, lit⟩
    obtain ⟨column, row⟩ := lt_of_inGlyph lit
    have across : (UInt8.ofNat (x - place.1.toNat)).toNat = x - place.1.toNat :=
      UInt8.toNat_ofNat_of_lt (Nat.lt_of_lt_of_le column (by decide))
    have down : (UInt8.ofNat (y - place.2.toNat)).toNat = y - place.2.toNat :=
      UInt8.toNat_ofNat_of_lt (Nat.lt_of_lt_of_le row (by decide))
    have listed : (UInt8.ofNat (x - place.1.toNat), UInt8.ofNat (y - place.2.toNat))
        ∈ digitPixels digit := by
      rw [mem_digitPixels, across, down]
      exact lit
    refine ⟨_, listed, ?_⟩
    rw [position_of_placed on listed, across, down, Nat.add_sub_cancel' left,
      Nat.add_sub_cancel' top]

/-- Digits at these places have no column or no row in common. -/
def Apart (place other : UInt8 × UInt8) : Prop :=
  place.1.toNat + 4 ≤ other.1.toNat ∨ other.1.toNat + 4 ≤ place.1.toNat
    ∨ place.2.toNat + glyphHeight ≤ other.2.toNat ∨ other.2.toNat + glyphHeight ≤ place.2.toNat

theorem nodup_digitPixels (digit : KeyId) : (digitPixels digit).Nodup := by
  have columns : ([0, 1, 2, 3] : List UInt8).Nodup := by decide
  have rows : ([0, 1, 2, 3, 4] : List UInt8).Nodup := by decide
  rw [digitPixels, List.nodup_flatMap]
  refine ⟨fun row _ => (columns.filter _).map fun _ _ same => (Prod.mk.inj same).1, ?_⟩
  refine rows.imp fun differ pixel above below => ?_
  obtain ⟨_, _, rfl⟩ := List.mem_map.1 above
  obtain ⟨_, _, same⟩ := List.mem_map.1 below
  exact differ (Prod.mk.inj same).2.symm

/-- A digit on the plane does not meet itself. -/
theorem nodup_placed {place : UInt8 × UInt8} (on : OnPlane place) (digit : KeyId) :
    ((placed digit place).map Plane.position).Nodup := by
  rw [placed, List.map_map]
  refine (nodup_digitPixels digit).map_on fun pixel listed other listed' same => ?_
  have column := (lt_of_mem_digitPixels listed).1
  have column' := (lt_of_mem_digitPixels listed').1
  have columns := on.columns
  simp only [Function.comp_apply] at same
  rw [position_of_placed on listed, position_of_placed on listed'] at same
  unfold planeWidth at same columns
  refine Prod.ext (UInt8.toNat_inj.1 ?_) (UInt8.toNat_inj.1 ?_)
  · omega
  · omega

/-- Nor does it meet a digit that is apart from it. -/
theorem disjoint_placed {place other : UInt8 × UInt8} {digit digit' : KeyId} (on : OnPlane place)
    (on' : OnPlane other) (apart : Apart place other) :
    ((placed digit place).map Plane.position).Disjoint
      ((placed digit' other).map Plane.position) := by
  intro position here there
  rw [placed, List.map_map, List.mem_map] at here there
  obtain ⟨pixel, listed, rfl⟩ := here
  obtain ⟨pixel', listed', same⟩ := there
  obtain ⟨column, row⟩ := lt_of_mem_digitPixels listed
  obtain ⟨column', row'⟩ := lt_of_mem_digitPixels listed'
  have columns := on.columns
  have columns' := on'.columns
  simp only [Function.comp_apply] at same
  rw [position_of_placed on listed, position_of_placed on' listed'] at same
  unfold Apart at apart
  unfold planeWidth at same columns columns'
  omega

/-! ## The whole picture -/

/-- The pixels of the digits of the font. -/
def fontPixels : List (UInt8 × UInt8) :=
  (List.finRange 16).flatMap fun digit => placed digit (fontPlace digit)

/-- The pixels of the digit below the font. -/
def keyPixels : Option KeyId → List (UInt8 × UInt8)
  | none => []
  | some digit => placed digit keyPlace

/-- What is drawn by flipping them on a blank plane. -/
def picture (shown : Option KeyId) : Plane :=
  (Plane.blank.toggleAll fontPixels).toggleAll (keyPixels shown)

theorem picture_none : picture none = Plane.blank.toggleAll fontPixels := by
  rw [picture, keyPixels, Plane.toggleAll]

/-- One digit below the font takes the place of another. -/
theorem picture_toggle (before after : Option KeyId) :
    ((picture before).toggleAll (keyPixels before)).toggleAll (keyPixels after)
      = picture after := by
  rw [picture, Plane.toggleAll_toggleAll, picture]

/-- The places of the font are eight apart. -/
theorem fontPlace_eq (digit : KeyId) :
    (fontPlace digit).1.toNat = 2 + 8 * (digit.val % 8)
      ∧ (fontPlace digit).2.toNat = 4 + 8 * (digit.val / 8) := by
  revert digit
  decide

theorem onPlane_fontPlace (digit : KeyId) : OnPlane (fontPlace digit) := by
  obtain ⟨across, down⟩ := fontPlace_eq digit
  refine ⟨?_, ?_⟩
  · rw [across]
    unfold planeWidth
    omega
  · rw [down]
    unfold planeHeight glyphHeight
    omega

theorem onPlane_keyPlace : OnPlane keyPlace := ⟨by decide, by decide⟩

theorem apart_fontPlace {digit other : KeyId} (differ : digit ≠ other) :
    Apart (fontPlace digit) (fontPlace other) := by
  obtain ⟨across, down⟩ := fontPlace_eq digit
  obtain ⟨across', down'⟩ := fontPlace_eq other
  have val_ne : digit.val ≠ other.val := fun same => differ (Fin.ext same)
  rw [Apart, across, down, across', down', glyphHeight]
  omega

/-- The digit below the font is below all of it. -/
theorem apart_keyPlace (digit : KeyId) : Apart (fontPlace digit) keyPlace := by
  have down := (fontPlace_eq digit).2
  have key : keyPlace.2.toNat = 22 := rfl
  rw [Apart, down, key, glyphHeight]
  omega

/-- No two digits meet, so no pixel is flipped twice. -/
theorem nodup_pixels (shown : Option KeyId) :
    ((fontPixels ++ keyPixels shown).map Plane.position).Nodup := by
  have font : (fontPixels.map Plane.position).Nodup := by
    rw [fontPixels, List.map_flatMap, List.nodup_flatMap]
    refine ⟨fun digit _ => nodup_placed (onPlane_fontPlace digit) digit, ?_⟩
    refine (List.nodup_finRange 16).imp fun differ => ?_
    exact disjoint_placed (onPlane_fontPlace _) (onPlane_fontPlace _) (apart_fontPlace differ)
  cases shown with
  | none => rwa [keyPixels, List.append_nil]
  | some digit =>
    rw [keyPixels, List.map_append]
    refine font.append (nodup_placed onPlane_keyPlace digit) fun position above below => ?_
    rw [fontPixels, List.map_flatMap, List.mem_flatMap] at above
    obtain ⟨other, _, here⟩ := above
    exact disjoint_placed (onPlane_fontPlace other) onPlane_keyPlace (apart_keyPlace other) here
      below

/-- The flipped pixels are the picture. -/
theorem shows_picture (shown : Option KeyId) : Shows shown (picture shown) := by
  intro x y width height
  rw [picture, ← Plane.toggleAll_append, Plane.getLsbD_toggleAll_blank (nodup_pixels shown),
    List.map_append, List.mem_append]
  refine or_congr ?_ ?_
  · rw [fontPixels, List.map_flatMap, List.mem_flatMap]
    refine exists_congr fun digit => ?_
    obtain ⟨across, down⟩ := fontPlace_eq digit
    rw [mem_position_placed (onPlane_fontPlace digit) width, across, down]
    simp
  · cases shown with
    | none => simp [keyPixels]
    | some digit =>
      rw [keyPixels, mem_position_placed onPlane_keyPlace width]
      simp [keyPlace]

end Chip8Console.TestCard
