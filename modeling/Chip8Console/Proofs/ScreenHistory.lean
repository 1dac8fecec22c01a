import Chip8Console.Proofs.Pictures
import Chip8Console.Screen.Basic
import Mathlib.Data.List.DropRight

/-!
# A screen and its history

What a screen shows can be read off what was done to it since it was blank.

* A pixel of the back plane is lit if it was flipped an odd number of times since the
  plane was last wiped.  Clearing wipes it, and so does blanking the screen.
* The plane on display is the back plane at the last presentation, if the screen was
  not blanked after that.  Otherwise it is blank.

So a drawing comes down to how often each pixel was flipped.  Coordinates that differ by
whole widths and heights of the plane name the same pixel.

* `Screen.flipped`, `Screen.timesFlipped`: the pixels flipped since the last wipe.
* `Screen.Displays`: the plane that a history puts on display.
* `Screen.back_after`, `Screen.displays_after`: screen and history agree.
* `Screen.shows_history`: the main statement.
-/

namespace Chip8Console

/-! ## Coordinates -/

namespace Plane

/-- Two coordinates name the same pixel. -/
def SamePixel (pixel other : UInt8 × UInt8) : Prop :=
  pixel.1.toNat % planeWidth = other.1.toNat % planeWidth
    ∧ pixel.2.toNat % planeHeight = other.2.toNat % planeHeight

instance (pixel other : UInt8 × UInt8) : Decidable (SamePixel pixel other) :=
  inferInstanceAs (Decidable (_ ∧ _))

theorem position_eq_iff {pixel other : UInt8 × UInt8} :
    position pixel = position other ↔ SamePixel pixel other := by
  unfold position index SamePixel planeWidth planeHeight
  omega

/-- Positions count row by row from the top, and each row from the left. -/
theorem index_ofNat {x y : Nat} (column : x < planeWidth) (row : y < planeHeight) :
    index (UInt8.ofNat x) (UInt8.ofNat y) = y * planeWidth + x := by
  unfold planeWidth at column
  unfold planeHeight at row
  unfold index planeWidth planeHeight
  rw [UInt8.toNat_ofNat', UInt8.toNat_ofNat']
  omega

/-- A plane is known by its pixels. -/
theorem eq_of_pixel {p q : Plane} (same : ∀ x y, p.pixel x y = q.pixel x y) : p = q := by
  apply BitVec.eq_of_getLsbD_eq
  intro i inside
  have here : index (UInt8.ofNat (i % 64)) (UInt8.ofNat (i / 64)) = i := by
    have column : i % 64 < planeWidth := Nat.mod_lt i (by decide)
    have row : i / 64 < planeHeight := Nat.div_lt_of_lt_mul inside
    rw [index_ofNat column row]
    exact Nat.div_add_mod' i 64
  have lit := same (UInt8.ofNat (i % 64)) (UInt8.ofNat (i / 64))
  rwa [pixel, pixel, here] at lit

theorem flips_eq_countP (pixels : List (UInt8 × UInt8)) (pixel : UInt8 × UInt8) :
    flips pixels (position pixel) = pixels.countP fun other => SamePixel other pixel := by
  rw [flips, List.count, List.countP_map]
  refine List.countP_congr fun other _ => ?_
  rw [Function.comp_apply, beq_iff_eq, decide_eq_true_eq, position_eq_iff]

/-- The order in which pixels are flipped is of no account. -/
theorem toggleAll_perm (p : Plane) {pixels other : List (UInt8 × UInt8)}
    (reordered : other.Perm pixels) : p.toggleAll other = p.toggleAll pixels := by
  apply BitVec.eq_of_getLsbD_eq
  intro i _
  rw [getLsbD_toggleAll, getLsbD_toggleAll, flips, flips, (reordered.map position).count_eq]

end Plane

/-! ## Histories -/

namespace Screen

/-- The screen after operations in a row. -/
def after (s : Screen) : List Op → Screen
  | [] => s
  | op :: rest => (s.perform op).2.after rest

theorem after_append (s : Screen) (earlier later : List Op) :
    s.after (earlier ++ later) = (s.after earlier).after later := by
  induction earlier generalizing s with
  | nil => rfl
  | cons op rest ih => exact ih (s.perform op).2

namespace Op

/-- The back plane is blank afterwards. -/
def wipes : Op → Bool
  | .clear | .blank => true
  | _ => false

/-- The plane on display is another one afterwards. -/
def displays : Op → Bool
  | .present | .blank => true
  | _ => false

/-- The pixel that is flipped. -/
def target? : Op → Option (UInt8 × UInt8)
  | .toggle x y => some (x, y)
  | _ => none

end Op

/-- The pixels flipped since the back plane was last wiped, in their order. -/
def flipped (history : List Op) : List (UInt8 × UInt8) :=
  (history.rtakeWhile fun op => !op.wipes).filterMap Op.target?

/-- How often a pixel was flipped since then. -/
def timesFlipped (history : List Op) (x y : UInt8) : Nat :=
  (flipped history).countP fun pixel => Plane.SamePixel pixel (x, y)

/-- The plane that a history puts on display, from a blank screen. -/
inductive Displays : List Op → Plane → Prop where
  /-- The back plane was presented, and nothing else came on display since. -/
  | presented {earlier later : List Op} (since : ∀ op ∈ later, op.displays = false) :
      Displays (earlier ++ .present :: later) (blank.after earlier).back
  /-- The screen was blanked, and nothing came on display since. -/
  | blanked {earlier later : List Op} (since : ∀ op ∈ later, op.displays = false) :
      Displays (earlier ++ .blank :: later) Plane.blank
  /-- Nothing ever came on display. -/
  | untouched {history : List Op} (since : ∀ op ∈ history, op.displays = false) :
      Displays history Plane.blank

/-! ## The back plane -/

/-- A wipe leaves nothing of what was flipped before it. -/
theorem flipped_concat (history : List Op) (op : Op) :
    flipped (history ++ [op])
      = if op.wipes = true then [] else flipped history ++ op.target?.toList := by
  rw [flipped, List.rtakeWhile_concat]
  cases wipes : op.wipes with
  | true => rfl
  | false =>
    rw [Bool.not_false, if_pos rfl, if_neg Bool.false_ne_true, List.filterMap_append, flipped]
    cases target : op.target? with
    | none => rw [List.filterMap_cons_none target]; rfl
    | some pixel => rw [List.filterMap_cons_some target]; rfl

theorem back_perform (s : Screen) (op : Op) :
    (s.perform op).2.back
      = if op.wipes = true then Plane.blank else s.back.toggleAll op.target?.toList := by
  cases op with
  | toggle x y => rfl
  | pixel x y => rfl
  | clear => rfl
  | present => rfl
  | blank => rfl
  | back => rfl
  | front => rfl

/-- The back plane consists of the pixels flipped since it was last wiped. -/
theorem back_after (history : List Op) :
    (blank.after history).back = Plane.blank.toggleAll (flipped history) := by
  induction history using List.reverseRecOn with
  | nil => rfl
  | append_singleton earlier op ih =>
    rw [after_append, after, after, back_perform, ih, flipped_concat]
    split
    · rfl
    · rw [Plane.toggleAll_append]

/-- A pixel is lit if it was flipped an odd number of times since then. -/
theorem pixel_after (history : List Op) (x y : UInt8) :
    (blank.after history).back.pixel x y = decide (timesFlipped history x y % 2 = 1) := by
  have dark : Plane.blank.getLsbD (Plane.index x y) = false := BitVec.getLsbD_zero
  rw [back_after, Plane.pixel, Plane.getLsbD_toggleAll, dark, Bool.false_xor, timesFlipped]
  exact congrArg (fun count => decide (count % 2 = 1)) (Plane.flips_eq_countP _ (x, y))

/-- Two histories draw the same if no pixel tells them apart. -/
theorem back_eq_iff (history other : List Op) :
    (blank.after other).back = (blank.after history).back
      ↔ ∀ x y, timesFlipped other x y % 2 = timesFlipped history x y % 2 := by
  constructor
  · intro same x y
    have lit := congrArg (fun plane => Plane.pixel plane x y) same
    simp only [pixel_after, decide_eq_decide] at lit
    omega
  · intro same
    apply Plane.eq_of_pixel
    intro x y
    rw [pixel_after, pixel_after, same]

/-! ## Drawings -/

/-- Flips pixels one after another. -/
def toggles (pixels : List (UInt8 × UInt8)) : List Op :=
  pixels.map fun pixel => .toggle pixel.1 pixel.2

theorem back_after_toggles (s : Screen) (pixels : List (UInt8 × UInt8)) :
    (s.after (toggles pixels)).back = s.back.toggleAll pixels := by
  induction pixels generalizing s with
  | nil => rfl
  | cons pixel rest ih => exact ih (s.perform (.toggle pixel.1 pixel.2)).2

/-! ## The plane on display -/

theorem front_perform_of_not_displays {s : Screen} {op : Op} (quiet : op.displays = false) :
    (s.perform op).2.front = s.front := by
  cases op with
  | toggle x y => rfl
  | pixel x y => rfl
  | clear => rfl
  | present => cases quiet
  | blank => cases quiet
  | back => rfl
  | front => rfl

/-- What is on display stays there. -/
theorem Displays.concat {history : List Op} {plane : Plane} (h : Displays history plane) {op : Op}
    (quiet : op.displays = false) : Displays (history ++ [op]) plane := by
  have quiet_end : ∀ other ∈ [op], other.displays = false := List.forall_mem_singleton.2 quiet
  cases h with
  | presented since =>
    rw [List.append_assoc, List.cons_append]
    exact .presented (List.forall_mem_append.2 ⟨since, quiet_end⟩)
  | blanked since =>
    rw [List.append_assoc, List.cons_append]
    exact .blanked (List.forall_mem_append.2 ⟨since, quiet_end⟩)
  | untouched since => exact .untouched (List.forall_mem_append.2 ⟨since, quiet_end⟩)

theorem displays_after (history : List Op) : Displays history (blank.after history).front := by
  induction history using List.reverseRecOn with
  | nil => exact .untouched (by simp)
  | append_singleton earlier op ih =>
    rw [after_append, after, after]
    cases shown : op.displays with
    | false =>
      rw [front_perform_of_not_displays shown]
      exact ih.concat shown
    | true =>
      cases op with
      | present => exact .presented (by simp)
      | blank => exact .blanked (by simp)
      | toggle x y => cases shown
      | pixel x y => cases shown
      | clear => cases shown
      | back => cases shown
      | front => cases shown

/-- The pixels of a plane come row by row from the top, and each row from the left. -/
theorem getElem?_pixels (p : Plane) {x y : Nat} (column : x < planeWidth) (row : y < planeHeight) :
    p.pixels[y * planeWidth + x]? = some (p.pixel (UInt8.ofNat x) (UInt8.ofNat y)) := by
  have inside : y * planeWidth + x < 2048 := by
    rw [← Plane.index_ofNat column row]
    exact Plane.index_lt _ _
  rw [Plane.pixels, List.getElem?_map, List.getElem?_range inside, Option.map_some, Plane.pixel,
    Plane.index_ofNat column row]

/-- **A screen shows its history.**  Take a screen after any history from a blank one.
Flipping a pixel or asking for it answers whether it was flipped an odd number of times
since the back plane was last wiped.  The plane on display is the back plane at the last
presentation, or blank if there was none since the screen was last blanked.  It is read
row by row, and only presenting and blanking change it.  Another history leads to the
same back plane exactly if it flipped each pixel as often, up to pairs.  So the order of
flips is of no account, and a drawing made twice is gone. -/
theorem shows_history {history : List Op} {s : Screen} (drawn : s = blank.after history) :
    (∀ x y, (s.perform (.toggle x y)).1 = decide (timesFlipped history x y % 2 = 1)
        ∧ (s.perform (.pixel x y)).1 = decide (timesFlipped history x y % 2 = 1))
      ∧ Displays history s.front
      ∧ (∀ x y, x < planeWidth → y < planeHeight →
        s.front.pixels[y * planeWidth + x]?
          = some (s.front.pixel (UInt8.ofNat x) (UInt8.ofNat y)))
      ∧ (∀ op, op.displays = false → (s.perform op).2.front = s.front)
      ∧ (∀ other, (blank.after other).back = s.back
        ↔ ∀ x y, timesFlipped other x y % 2 = timesFlipped history x y % 2)
      ∧ (∀ pixels other, other.Perm pixels →
        (s.after (toggles other)).back = (s.after (toggles pixels)).back)
      ∧ ∀ pixels, (s.after (toggles pixels ++ toggles pixels)).back = s.back := by
  subst drawn
  refine ⟨?_, displays_after history, ?_, ?_, fun other => back_eq_iff history other, ?_, ?_⟩
  · intro x y
    exact ⟨pixel_after history x y, pixel_after history x y⟩
  · intro x y column row
    exact getElem?_pixels _ column row
  · intro op quiet
    exact front_perform_of_not_displays quiet
  · intro pixels other reordered
    rw [back_after_toggles, back_after_toggles, Plane.toggleAll_perm _ reordered]
  · intro pixels
    rw [after_append, back_after_toggles, back_after_toggles, Plane.toggleAll_toggleAll]

/-- A pixel flipped beyond both edges, presented, and wiped.  Then it is flipped three
times under other names, and another pixel once. -/
def wrapping : List Op :=
  [.toggle 64 33, .present, .clear, .toggle 0 1, .toggle 128 65, .toggle 192 97, .toggle 3 2]

/-- Both pixels are lit.  On display is the plane as it was before the wipe.  Flipping
the two once more, in either order, leaves the same plane. -/
theorem shows_history_wrapping :
    ((blank.after wrapping).perform (.toggle 0 33)).1 = true
      ∧ ((blank.after wrapping).perform (.pixel 3 2)).1 = true
      ∧ Displays wrapping (blank.after [.toggle 64 33]).back
      ∧ (blank.after wrapping).front.pixels[64]? = some true
      ∧ ((blank.after wrapping).after (toggles [(3, 2), (0, 1)])).back
        = ((blank.after wrapping).after (toggles [(0, 1), (3, 2)])).back := by
  obtain ⟨answers, displays, rows, _, _, reordered, _⟩ :=
    shows_history (s := blank.after wrapping) rfl
  have shown : (blank.after wrapping).front = (blank.after [.toggle 64 33]).back := rfl
  have lit : (blank.after [.toggle 64 33]).back.pixel 0 1 = true :=
    (pixel_after [.toggle 64 33] 0 1).trans (by decide)
  have corner := rows 0 1 (by decide) (by decide)
  rw [shown] at displays corner
  refine ⟨(answers 0 33).1.trans (by decide), (answers 3 2).2.trans (by decide), displays, ?_,
    reordered _ _ (.swap _ _ _)⟩
  rw [shown]
  exact corner.trans (congrArg some lit)

end Screen

end Chip8Console
