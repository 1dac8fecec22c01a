import Chip8Console.Memory.Basic

/-!
# The two images of a session

Before a core runs, the glyphs of the sixteen hexadecimal digits and the
program are written into its memory, each at its own address.  The font comes
first.  If it does not fit, the program is not tried.
-/

namespace Chip8Console

/-- How much memory the machine usually has. -/
def ramSize : Nat := 4096

/-- Where the program goes. -/
def programAddress : UInt16 := 0x200

/-- Where the font goes. -/
def fontAddress : UInt16 := 0x50

/-- Bytes in a glyph, one for each row. -/
def glyphHeight : Nat := 5

/-- The glyphs of the sixteen digits.  The four high bits of a byte are the
pixels of a row. -/
def font : Bytes := [
  0xF0, 0x90, 0x90, 0x90, 0xF0,
  0x20, 0x60, 0x20, 0x20, 0x70,
  0xF0, 0x10, 0xF0, 0x80, 0xF0,
  0xF0, 0x10, 0xF0, 0x10, 0xF0,
  0x90, 0x90, 0xF0, 0x10, 0x10,
  0xF0, 0x80, 0xF0, 0x10, 0xF0,
  0xF0, 0x80, 0xF0, 0x90, 0xF0,
  0xF0, 0x10, 0x20, 0x40, 0x40,
  0xF0, 0x90, 0xF0, 0x90, 0xF0,
  0xF0, 0x90, 0xF0, 0x10, 0xF0,
  0xF0, 0x90, 0xF0, 0x90, 0x90,
  0xE0, 0x90, 0xE0, 0x90, 0xE0,
  0xF0, 0x80, 0x80, 0x80, 0xF0,
  0xE0, 0x90, 0x90, 0x90, 0xE0,
  0xF0, 0x80, 0xF0, 0x80, 0xF0,
  0xF0, 0x80, 0xF0, 0x80, 0x80]

/-- Every digit has a glyph. -/
theorem length_font : font.length = 16 * glyphHeight := rfl

/-- Writes the font and then the program. -/
def Memory.install (m : Memory) (program : Bytes) : Except Failure Unit × Memory :=
  match m.load fontAddress font with
  | (.ok (), m) => m.load programAddress program
  | (.error failure, m) => (.error failure, m)

end Chip8Console
