import Chip8Console.Keypad.Keymap

/-!
# The keypad

The keypad answers two questions.  Is a key held now?  Which key was pressed
last, if nobody has asked since?  The second answer is the *latch*.

* A press of a bound key makes it held and puts it in the latch.
* A release of a bound key makes it not held and empties the latch, whichever
  key is in it.
* Asking for the latched key empties the latch and leaves the held keys.
* A key that is not bound has no effect.
* A new keymap starts with nothing held and an empty latch.  A list that is no
  keymap changes nothing.
-/

namespace Chip8Console

/-- The keys that are held and the press that waits to be consumed. -/
structure Keypad where
  /-- Which physical key stands for which id. -/
  keymap : Keymap
  held : Vector Bool 16 := Vector.replicate 16 false
  /-- The last press, until it is consumed or a key is released. -/
  latched : Option KeyId := none

namespace Keypad

/-- The keypad with nothing held and nothing latched. -/
def reset (p : Keypad) : Keypad := { keymap := p.keymap }

/-- The keypad for the keymap that a list of entries describes. -/
def ofList (entries : List KeyEntry) : Except KeymapError Keypad :=
  match Keymap.ofList entries with
  | .ok keymap => .ok { keymap }
  | .error error => .error error

/-- Replaces the keymap. -/
def configure (p : Keypad) (entries : List KeyEntry) : Except KeymapError Unit × Keypad :=
  match ofList entries with
  | .ok fresh => (.ok (), fresh)
  | .error error => (.error error, p)

/-- A physical key goes down.  The answer says whether it is bound. -/
def press (p : Keypad) (key : Char) : Bool × Keypad :=
  match p.keymap.id? key with
  | some id => (true, { p with held := p.held.set id.val true id.isLt, latched := some id })
  | none => (false, p)

/-- A physical key goes up.  The answer says whether it is bound. -/
def release (p : Keypad) (key : Char) : Bool × Keypad :=
  match p.keymap.id? key with
  | some id => (true, { p with held := p.held.set id.val false id.isLt, latched := none })
  | none => (false, p)

/-- The key of an id is held.  Numbers that are no id are never held. -/
def isDown (p : Keypad) (id : UInt8) : Bool := p.held[id.toNat]?.getD false

/-- Hands out the latched key, once. -/
def consume (p : Keypad) : Option KeyId × Keypad := (p.latched, { p with latched := none })

/-- The ids of the held keys, in ascending order. -/
def heldIds (p : Keypad) : List KeyId := (List.finRange 16).filter p.held.get

/-! ## Operations as data -/

/-- Something done to a keypad. -/
inductive Op where
  /-- A physical key goes down. -/
  | press (key : Char)
  /-- A physical key goes up. -/
  | release (key : Char)
  /-- Which id does a physical key stand for? -/
  | idOf (key : Char)
  /-- Is the key of an id held? -/
  | isDown (id : UInt8)
  | consume
  | reset
  | configure (entries : List KeyEntry)

/-- What an operation answers. -/
@[reducible] def Op.Answer : Op → Type
  | .press _ | .release _ | .isDown _ => Bool
  | .idOf _ | .consume => Option KeyId
  | .reset => Unit
  | .configure _ => Except KeymapError Unit

/-- Carries out an operation. -/
def perform (p : Keypad) : (op : Op) → op.Answer × Keypad
  | .press key => p.press key
  | .release key => p.release key
  | .idOf key => (p.keymap.id? key, p)
  | .isDown id => (p.isDown id, p)
  | .consume => p.consume
  | .reset => ((), p.reset)
  | .configure entries => p.configure entries

end Keypad

end Chip8Console
