import Chip8Console.Failure

/-!
# Memory

A memory is a row of bytes of fixed size.  Data is copied into it at an address
as a whole or not at all.  A slice of it can be read if it ends within the
memory.  The empty slice at the very end counts as within.
-/

namespace Chip8Console

/-- Bytes in a row: a program, a font, the content of a file. -/
abbrev Bytes := List UInt8

/-- A memory of fixed size. -/
structure Memory where
  bytes : Bytes
  deriving DecidableEq

namespace Memory

/-- A memory of zeros. -/
def zeros (size : Nat) : Memory := ⟨List.replicate size 0⟩

/-- How many bytes the memory has. -/
def size (m : Memory) : Nat := m.bytes.length

/-- The byte at an address, if there is one. -/
def byte? (m : Memory) (address : Nat) : Option UInt8 := m.bytes[address]?

/-- The memory with one byte replaced.  Beyond its end nothing happens. -/
def poke (m : Memory) (address : Nat) (value : UInt8) : Memory := ⟨m.bytes.set address value⟩

/-- The memory with data copied over what was at an address.  The data is taken
to fit. -/
def splice (m : Memory) (address : Nat) (data : Bytes) : Memory :=
  ⟨m.bytes.take address ++ data ++ m.bytes.drop (address + data.length)⟩

/-- Copies data in at an address.  If it does not fit nothing is written. -/
def load (m : Memory) (address : UInt16) (data : Bytes) : Except Failure Unit × Memory :=
  if address.toNat + data.length ≤ m.size then (.ok (), m.splice address.toNat data)
  else (.error (.outOfBounds address data.length m.size), m)

/-- So many bytes from an address on, if the memory has them. -/
def slice? (m : Memory) (address : UInt16) (length : Nat) : Option Bytes :=
  if address.toNat + length ≤ m.size then some ((m.bytes.drop address.toNat).take length)
  else none

/-- Data that fits leaves the size as it was. -/
theorem size_splice {m : Memory} {address : Nat} {data : Bytes}
    (fits : address + data.length ≤ m.size) : (m.splice address data).size = m.size := by
  unfold size at fits
  simp only [splice, size, List.length_append, List.length_take, List.length_drop]
  omega

/-- Loading never changes the size. -/
@[simp] theorem size_load (m : Memory) (address : UInt16) (data : Bytes) :
    (m.load address data).2.size = m.size := by
  unfold load
  split
  · next fits => exact size_splice fits
  · rfl

end Memory

end Chip8Console
