import Chip8Console.Keypad.Keymap

/-!
# What a core may ask of the devices

A core sees the devices only through a fixed set of calls.  Each call has an
answer, and the type of the answer depends on the call.  No call reports a
failure.

A `Routine` is a piece of a core's work: it ends with a result, or it makes a
call and goes on with the answer.  So the calls of a routine and their order
are part of its definition, and every routine ends.
-/

namespace Chip8Console

/-- A call that a core makes while it runs. -/
inductive DeviceCall where
  | clearScreen
  | randomByte
  /-- Flip a pixel.  Was it lit? -/
  | togglePixel (x y : UInt8)
  /-- Is the key of an id held? -/
  | isKeyDown (id : UInt8)
  | consumeKey
  | enableSound
  | disableSound
  /-- Show a byte to whoever debugs the core. -/
  | debugByte (value : UInt8)
  /-- Show a word to whoever debugs the core. -/
  | debugWord (value : UInt16)
  deriving DecidableEq

/-- What a call answers. -/
@[reducible] def DeviceCall.Answer : DeviceCall → Type
  | .randomByte => UInt8
  | .togglePixel _ _ | .isKeyDown _ => Bool
  | .consumeKey => Option KeyId
  | _ => Unit

universe u v

/-- A piece of work that may call the devices. -/
inductive Routine (α : Type u) : Type u where
  /-- The work ends with a result. -/
  | done (result : α)
  /-- The work makes a call and goes on with the answer. -/
  | call (c : DeviceCall) (next : c.Answer → Routine α)

namespace Routine

/-- One routine after another. -/
def bind {α : Type u} {β : Type v} : Routine α → (α → Routine β) → Routine β
  | .done result, after => after result
  | .call c next, after => .call c fun answer => (next answer).bind after

instance : Monad Routine where
  pure := .done
  bind := bind

/-- The routine that makes one call and ends with its answer. -/
def ask (c : DeviceCall) : Routine c.Answer := .call c .done

@[simp] theorem pure_eq {α : Type u} (a : α) : (pure a : Routine α) = .done a := rfl

@[simp] theorem done_bind {α β : Type u} (a : α) (f : α → Routine β) :
    (Routine.done a >>= f) = f a := rfl

@[simp] theorem call_bind {α β : Type u} (c : DeviceCall) (next : c.Answer → Routine α)
    (f : α → Routine β) :
    (Routine.call c next >>= f) = .call c fun answer => next answer >>= f := rfl

end Routine

end Chip8Console
