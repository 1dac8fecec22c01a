import Chip8Console.Memory.Basic

/-!
# Sources of data

A source hands out its data piece by piece.  After each piece it either goes
on, comes to its end, or fails.  An empty piece is an end too.  A read that is
interrupted is made again, so it leaves no trace here.

`Source.readAll` is the whole content, whatever the pieces, or the failure.
-/

namespace Chip8Console

/-- Something data can be read from. -/
inductive Source where
  /-- There is no more. -/
  | ended
  /-- Reading on fails. -/
  | broken (text : String)
  /-- A piece of data, and then the rest. -/
  | piece (bytes : Bytes) (rest : Source)

namespace Source

/-- Everything from here on, after the pieces read before, of which the last
comes first. -/
def readOn (before : List Bytes) : Source → Except Failure Bytes
  | .ended => .ok before.reverse.flatten
  | .broken text => .error (.io text)
  | .piece bytes rest =>
      if bytes.isEmpty then .ok before.reverse.flatten else rest.readOn (bytes :: before)

/-- The whole content. -/
def readAll (s : Source) : Except Failure Bytes := s.readOn []

end Source

/-- Copies the whole content of a source in at an address.  If reading fails
nothing is written. -/
def Memory.loadFrom (m : Memory) (address : UInt16) (source : Source) :
    Except Failure Unit × Memory :=
  match source.readAll with
  | .ok data => m.load address data
  | .error failure => (.error failure, m)

end Chip8Console
