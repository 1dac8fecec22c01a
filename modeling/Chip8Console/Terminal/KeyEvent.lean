/-!
# Events of a terminal

What a terminal reports: keys with their modifiers, and other things that the
console has no use for.

A key event means one of three things.  Escape, and a small `c` with the control
key, ask to quit.  Any other character is typed, and capitals count as small
letters.  The remaining keys mean nothing.
-/

namespace Chip8Console

/-- A key of a terminal's keyboard. -/
inductive KeyCode where
  /-- A key that gives a character. -/
  | char (c : Char)
  | escape
  | enter
  /-- The key that deletes to the left. -/
  | backspace
  | tab
  /-- The tabulator with the shift key. -/
  | backTab
  | left
  | right
  | up
  | down
  /-- The key that goes to the start of a line. -/
  | home
  /-- The key that goes to the end of a line. -/
  | toEnd
  | pageUp
  | pageDown
  | insert
  /-- The key that deletes to the right. -/
  | delete
  /-- The key that gives the null character. -/
  | null
  | function (number : Nat)
  deriving DecidableEq

/-- A key event. -/
structure KeyEvent where
  code : KeyCode
  control : Bool := false
  shift : Bool := false
  alt : Bool := false
  deriving DecidableEq

/-- What a terminal reports. -/
inductive TerminalEvent where
  | key (event : KeyEvent)
  /-- Something about the mouse. -/
  | mouse
  /-- The terminal has another size. -/
  | resize (columns rows : Nat)
  deriving DecidableEq

/-- What a key event means to the console. -/
inductive KeyMeaning where
  | quit
  /-- A key of the keyboard is struck. -/
  | typed (key : Char)
  | nothing
  deriving DecidableEq

/-- The meaning of a key event. -/
def KeyEvent.meaning (event : KeyEvent) : KeyMeaning :=
  match event.code with
  | .escape => .quit
  | .char c => if c = 'c' && event.control then .quit else .typed c.toLower
  | _ => .nothing

end Chip8Console
