import Chip8Console.Text.Quoted

/-!
# What can go wrong

Every way in which setting up a session or running it can fail.  A failure is
a cause.  Its wording is in one function per type, named `message`.

* `KeymapError`: a list of key bindings that is no keymap.
* `CoreFault`: the execution core could not go on.
* `Failure`: any of these, a load that does not fit, and the two devices that
  may refuse, the speaker and the screen or the file behind a program.
-/

namespace Chip8Console

/-- Why a list of key bindings is no keymap. -/
inductive KeymapError where
  /-- There are not sixteen bindings. -/
  | wrongKeyCount (count : Nat)
  /-- An id is above fifteen. -/
  | idOutOfRange (id : UInt8)
  /-- Two keys are bound to one id. -/
  | duplicateId (id : UInt8)
  /-- One key is bound twice. -/
  | duplicateKey (key : Char)
  deriving DecidableEq

/-- The wording of a keymap error. -/
def KeymapError.message : KeymapError → String
  | .wrongKeyCount count => s!"expected 16 key bindings, got {count}"
  | .idOutOfRange id => s!"key id 0x{Hex.lowerByte id} is not in 0x0..=0xf"
  | .duplicateId id => s!"key id 0x{Hex.lowerByte id} is bound more than once"
  | .duplicateKey key => s!"physical key {quoted key} is bound more than once"

/-- The execution core gave up, with its reason. -/
structure CoreFault where
  /-- The reason, in the core's own words. -/
  text : String
  deriving DecidableEq

/-- Why an operation of the console failed. -/
inductive Failure where
  /-- The key bindings are unusable. -/
  | keymap (error : KeymapError)
  /-- A load of `length` bytes at `offset` is too long for a memory of `size` bytes. -/
  | outOfBounds (offset : UInt16) (length size : Nat)
  /-- The execution core gave up. -/
  | core (fault : CoreFault)
  /-- The speaker refused. -/
  | audio (text : String)
  /-- Reading a program or drawing the screen failed. -/
  | io (text : String)
  deriving DecidableEq

/-- The wording of a failure. -/
def Failure.message : Failure → String
  | .keymap error => s!"bad keyboard mapping: {error.message}"
  | .outOfBounds offset length size =>
      s!"load of {length} bytes at 0x{Hex.word offset} overruns {size} bytes of core memory"
  | .core fault => s!"execution core failed: {fault.text}"
  | .audio text => s!"audio device failed: {text}"
  | .io text => text

end Chip8Console
