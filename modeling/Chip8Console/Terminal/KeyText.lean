import Chip8Console.Terminal.KeyEvent

/-!
# Key events in a text

A terminal sends its keys as text.  Most keys are their own character.  Control
characters stand for the return, tabulator and delete keys, or for a letter with
the control key.  An escape character before a key is the alternate key.

Keys without a character are an escape sequence.  That is the escape character
and either a bracket, with what follows up to a letter or a tilde, or a capital
`O` and one more character.  An escape character that begins no sequence and
stands before no key is the escape key.

* `KeyText.events` reads a text.
* `KeyText.write` is the text of an event.
-/

namespace Chip8Console.KeyText

/-- The escape character. -/
def escape : Char := '\x1b'

/-- The event of a character that is a control character or stands for itself. -/
def ofChar (c : Char) : KeyEvent :=
  if c = escape then { code := .escape }
  else if c = '\x00' then { code := .null }
  else if c = '\r' then { code := .enter }
  else if c = '\t' then { code := .tab }
  else if c = '\x7f' then { code := .backspace }
  else if c.toNat < 0x20 then { code := .char (Char.ofNat (c.toNat + 0x60)), control := true }
  else { code := .char c }

/-- How many function keys have a letter. -/
def letteredFunctions : Nat := 4

/-- How many function keys there are. -/
def functionCount : Nat := 12

/-- The letter of one of the first function keys, which are `P` to `S`. -/
def functionLetter (number : Nat) : Char := Char.ofNat (0x4F + number)

/-- What follows the bracket for one of the other function keys.  The numbers
leave one out after the fifth key and one after the tenth. -/
def functionSequence (number : Nat) : List Char :=
  Nat.toDigits 10 (number + 10 + (number - 1) / 5) ++ ['~']

/-- The function keys among the given ones that have the given text. -/
def functionKeys (numbers : List Nat) (hasText : Nat → Bool) : List KeyEvent :=
  (numbers.filter hasText).map fun number => { code := .function number }

/-- The event of an escape sequence with a bracket, if the console has a name
for its key. -/
def ofSequence : List Char → List KeyEvent
  | ['A'] => [{ code := .up }]
  | ['B'] => [{ code := .down }]
  | ['C'] => [{ code := .right }]
  | ['D'] => [{ code := .left }]
  | ['H'] => [{ code := .home }]
  | ['F'] => [{ code := .toEnd }]
  | ['Z'] => [{ code := .backTab, shift := true }]
  | ['2', '~'] => [{ code := .insert }]
  | ['3', '~'] => [{ code := .delete }]
  | ['5', '~'] => [{ code := .pageUp }]
  | ['6', '~'] => [{ code := .pageDown }]
  | sequence =>
      functionKeys (List.range' (letteredFunctions + 1) (functionCount - letteredFunctions))
        fun number => functionSequence number = sequence

/-- The event of an escape sequence with a capital `O`, if the console has a
name for its key. -/
def ofLetter (c : Char) : List KeyEvent :=
  functionKeys (List.range' 1 letteredFunctions) fun number => functionLetter number = c

/-- Ends an escape sequence. -/
def isLast (c : Char) : Bool := c.isAlpha || c = '~'

/-- Where the reader of a text is. -/
inductive Place where
  /-- Between two keys. -/
  | outside
  /-- After an escape character. -/
  | escaped
  /-- After an escape character and a capital `O`. -/
  | lettered
  /-- In an escape sequence, of which this is the reverse. -/
  | inside (reversed : List Char)

/-- The events of a text, read from a place on. -/
def read : Place → List Char → List KeyEvent
  | .outside, [] => []
  | .escaped, [] => [ofChar escape]
  | .lettered, [] => []
  | .inside _, [] => []
  | .outside, c :: rest => if c = escape then read .escaped rest else ofChar c :: read .outside rest
  | .escaped, c :: rest =>
      if c = '[' then read (.inside []) rest
      else if c = 'O' then read .lettered rest
      else if c = escape then ofChar escape :: read .escaped rest
      else { ofChar c with alt := true } :: read .outside rest
  | .lettered, c :: rest => ofLetter c ++ read .outside rest
  | .inside reversed, c :: rest =>
      if isLast c then ofSequence (c :: reversed).reverse ++ read .outside rest
      else read (.inside (c :: reversed)) rest

/-- The events of a text. -/
def events (text : String) : List TerminalEvent := (read .outside text.toList).map .key

/-! ## Writing -/

/-- The text of a key, with or without the control key. -/
def writeCode (control : Bool) : KeyCode → List Char
  | .char c => [if control then Char.ofNat (c.toNat % 0x20) else c]
  | .escape => [escape]
  | .enter => ['\r']
  | .backspace => ['\x7f']
  | .tab => ['\t']
  | .null => ['\x00']
  | .up => [escape, '[', 'A']
  | .down => [escape, '[', 'B']
  | .right => [escape, '[', 'C']
  | .left => [escape, '[', 'D']
  | .home => [escape, '[', 'H']
  | .toEnd => [escape, '[', 'F']
  | .backTab => [escape, '[', 'Z']
  | .insert => [escape, '[', '2', '~']
  | .delete => [escape, '[', '3', '~']
  | .pageUp => [escape, '[', '5', '~']
  | .pageDown => [escape, '[', '6', '~']
  | .function number =>
      if number ≤ letteredFunctions then [escape, 'O', functionLetter number]
      else escape :: '[' :: functionSequence number

/-- The text of an event.  A change of size is not reported in the text. -/
def write : TerminalEvent → List Char
  | .key event =>
      if event.alt then escape :: writeCode event.control event.code
      else writeCode event.control event.code
  | .mouse => escape :: ['[', '<', '0', ';', '1', ';', '1', 'M']
  | .resize _ _ => []

/-- How many bytes an event takes. -/
def byteCount (event : TerminalEvent) : Nat := (String.ofList (write event)).utf8ByteSize

end Chip8Console.KeyText
