import Chip8Console.Core
import Chip8Console.Memory.Images

/-!
# The test card

A core for demonstration.  It interprets no program.  Its first cycle draws the
sixteen digits of the font in two rows.  Each later cycle turns the tone on if
any key is held, and off otherwise, and then shows the digit of the latched key
below the font, in place of the one shown before.  Every cycle ends its frame.

The digits are drawn by flipping pixels, out of the core's own memory.  So a
digit is wiped out by drawing it once more.
-/

namespace Chip8Console

/-- The state of the test card. -/
structure TestCard where
  /-- The font is on the screen. -/
  drawn : Bool := false
  /-- The digit below the font. -/
  shown : Option KeyId := none
  deriving DecidableEq

namespace TestCard

/-- A test card in a memory of the usual size. -/
def core : Core TestCard := ⟨{}, Memory.zeros ramSize⟩

/-! ## Drawing digits -/

/-- The lit pixels of a row of a glyph, from the left. -/
def rowPixels (bits : UInt8) : List UInt8 :=
  [0, 1, 2, 3].filter fun bit => bits &&& (0x80 >>> bit) ≠ 0

/-- The lit pixels of a digit, as distances from its top left corner. -/
def glyphPixels (memory : Memory) (digit : KeyId) : List (UInt8 × UInt8) :=
  [0, 1, 2, 3, 4].flatMap fun row : UInt8 =>
    let address := fontAddress.toNat + digit.val * glyphHeight + row.toNat
    (rowPixels ((memory.byte? address).getD 0)).map fun bit => (bit, row)

/-- Flips pixels one after another. -/
def flipAll : List (UInt8 × UInt8) → Routine Unit
  | [] => .done ()
  | (x, y) :: rest => .call (.togglePixel x y) fun _ => flipAll rest

/-- Flips the pixels of a digit at a place. -/
def drawGlyph (memory : Memory) (digit : KeyId) (place : UInt8 × UInt8) : Routine Unit :=
  flipAll ((glyphPixels memory digit).map fun (x, y) => (place.1 + x, place.2 + y))

/-- The place of a digit in the two rows of the font. -/
def fontPlace (digit : KeyId) : UInt8 × UInt8 :=
  (2 + UInt8.ofNat (digit.val % 8) * 8, 4 + UInt8.ofNat (digit.val / 8) * 8)

/-- The place of the digit below the font. -/
def keyPlace : UInt8 × UInt8 := (30, 22)

/-- Draws digits of the font, each at its place. -/
def drawFont (memory : Memory) : List KeyId → Routine Unit
  | [] => .done ()
  | digit :: rest => (drawGlyph memory digit (fontPlace digit)).bind fun _ => drawFont memory rest

/-- Draws a digit below the font, if there is one to draw. -/
def drawKey (memory : Memory) : Option KeyId → Routine Unit
  | none => .done ()
  | some digit => drawGlyph memory digit keyPlace

/-! ## Cycles -/

/-- The first cycle. -/
def firstCycle (core : Core TestCard) : Routine (Core TestCard) :=
  .call .clearScreen fun _ => (drawFont core.memory (List.finRange 16)).bind fun _ =>
    .done { core with state := { core.state with drawn := true } }

/-- Some key of a list is held.  Keys after the first held one are not asked for. -/
def anyDown : List KeyId → Routine Bool
  | [] => .done false
  | id :: rest => .call (.isKeyDown (UInt8.ofNat id.val)) fun
      | true => .done true
      | false => anyDown rest

/-- Makes the tone follow the keys. -/
def followKeys : Routine Unit :=
  (anyDown (List.finRange 16)).bind fun held =>
    .call (if held then .enableSound else .disableSound) fun _ => .done ()

/-- Shows the latched key, if there is one. -/
def showKey (core : Core TestCard) : Routine (Core TestCard) :=
  .call .consumeKey fun
    | none => .done core
    | some key =>
        (drawKey core.memory core.state.shown).bind fun _ =>
          (drawKey core.memory (some key)).bind fun _ =>
            .done { core with state := { core.state with shown := some key } }

/-- The next cycle. -/
def nextCycle (core : Core TestCard) : Routine (Core TestCard) :=
  if core.state.drawn then followKeys.bind fun _ => showKey core else firstCycle core

instance : Interpreter TestCard where
  tick core := .done (.ok (), core)
  cycle core := (nextCycle core).bind fun core => .done (.ok true, core)

end TestCard

end Chip8Console
