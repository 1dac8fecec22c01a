/-!
# The random source

A source of random bytes is a stream without end, some of which has been drawn.
Which bytes the stream has is up to whoever makes the source, and nothing in the
console depends on it.

`Random.ofSeed` is one such stream for each seed, for programs that need one.
-/

namespace Chip8Console

/-- A source of random bytes. -/
structure Random where
  /-- The bytes of the stream, by their number. -/
  bytes : Nat → UInt8
  /-- How many of them have been drawn. -/
  drawn : Nat := 0

namespace Random

/-- The source that has nothing but zeros. -/
def zeros : Random where
  bytes _ := 0

/-- Draws the next byte. -/
def next (r : Random) : UInt8 × Random := (r.bytes r.drawn, { r with drawn := r.drawn + 1 })

/-- Draws so many bytes. -/
def draw : (count : Nat) → Random → List UInt8 × Random
  | 0, r => ([], r)
  | count + 1, r =>
      let (byte, r) := r.next
      let (bytes, r) := draw count r
      (byte :: bytes, r)

/-! ## Streams from seeds -/

/-- Spreads every bit of a word over the whole word. -/
def scramble (word : UInt64) : UInt64 :=
  let first := (word ^^^ (word >>> 30)) * 0xbf58476d1ce4e5b9
  let second := (first ^^^ (first >>> 27)) * 0x94d049bb133111eb
  second ^^^ (second >>> 31)

/-- A source with a given seed.  Its bytes are scrambled from words that go up by
an odd constant, so they run through all words. -/
def ofSeed (seed : UInt64) : Random where
  bytes number := (scramble (seed + UInt64.ofNat (number + 1) * 0x9e3779b97f4a7c15)).toUInt8

end Random

end Chip8Console
