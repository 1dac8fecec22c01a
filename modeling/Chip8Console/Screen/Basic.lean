import Chip8Console.Screen.Plane

/-!
# The screen

A screen has two planes.  A core draws into the back plane.  The front plane is
the one on display, and it changes only when the back plane is presented or the
screen is blanked.  So a half-drawn picture is never seen.
-/

namespace Chip8Console

/-- A plane to draw into and a plane on display. -/
structure Screen where
  /-- The plane that is drawn into. -/
  back : Plane := Plane.blank
  /-- The plane on display. -/
  front : Plane := Plane.blank
  deriving DecidableEq

namespace Screen

/-- Both planes are blank. -/
def blank : Screen := {}

/-- Turns every pixel of the back plane off. -/
def clear (s : Screen) : Screen := { s with back := Plane.blank }

/-- Flips a pixel of the back plane and answers what it was before. -/
def toggle (s : Screen) (x y : UInt8) : Bool × Screen :=
  (s.back.pixel x y, { s with back := s.back.toggle x y })

/-- Puts the back plane on display. -/
def present (s : Screen) : Screen := { s with front := s.back }

/-! ## Operations as data -/

/-- Something done to a screen. -/
inductive Op where
  | toggle (x y : UInt8)
  /-- Is a pixel of the back plane lit? -/
  | pixel (x y : UInt8)
  /-- Turn the back plane off. -/
  | clear
  /-- Put the back plane on display. -/
  | present
  /-- Turn both planes off. -/
  | blank
  /-- Look at the back plane. -/
  | back
  /-- Look at the plane on display. -/
  | front

/-- What an operation answers. -/
@[reducible] def Op.Answer : Op → Type
  | .toggle _ _ | .pixel _ _ => Bool
  | .clear | .present | .blank => Unit
  | .back | .front => Plane

/-- Carries out an operation. -/
def perform (s : Screen) : (op : Op) → op.Answer × Screen
  | .toggle x y => s.toggle x y
  | .pixel x y => (s.back.pixel x y, s)
  | .clear => ((), s.clear)
  | .present => ((), s.present)
  | .blank => ((), Screen.blank)
  | .back => (s.back, s)
  | .front => (s.front, s)

end Screen

end Chip8Console
