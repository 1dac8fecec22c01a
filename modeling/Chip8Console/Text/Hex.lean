/-!
# Hexadecimal text

Fixed-width hexadecimal digits.  The console prints bytes and words in upper
case and key ids in lower case, always padded with zeros to a fixed number of
digits.
-/

namespace Chip8Console.Hex

/-- Which letters stand for the digits ten to fifteen. -/
inductive Letters where
  /-- `A` to `F`. -/
  | upper
  /-- `a` to `f`. -/
  | lower

/-- The character of one digit. -/
def digit (letters : Letters) (value : Nat) : Char :=
  if value < 10 then Char.ofNat (48 + value)
  else match letters with
    | .upper => Char.ofNat (55 + value)
    | .lower => Char.ofNat (87 + value)

/-- The last `width` hexadecimal digits of a number, the highest first. -/
def digits (letters : Letters) : (width value : Nat) → List Char
  | 0, _ => []
  | width + 1, value =>
      digit letters (value / Nat.pow 16 width % 16) :: digits letters width value

/-- Two upper-case digits. -/
def byte (value : UInt8) : String := String.ofList (digits .upper 2 value.toNat)

/-- Four upper-case digits. -/
def word (value : UInt16) : String := String.ofList (digits .upper 4 value.toNat)

/-- Two lower-case digits. -/
def lowerByte (value : UInt8) : String := String.ofList (digits .lower 2 value.toNat)

/-- Lower-case digits without padding. -/
def shortest (value : Nat) : String := String.ofList (Nat.toDigits 16 value)

/-- A run of digits is as long as its width. -/
@[simp] theorem length_digits (letters : Letters) (width value : Nat) :
    (digits letters width value).length = width := by
  induction width with
  | zero => rfl
  | succ width ih => simp [digits, ih]

end Chip8Console.Hex
