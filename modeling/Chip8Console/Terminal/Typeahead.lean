import Chip8Console.Terminal.KeyText

/-!
# Events that are typed ahead

A terminal keeps what is typed until it is read.  One reading takes what is
there, but no more than 1204 bytes, and nothing at all unless something was typed
since the reading before.  So what is left of a long text waits until more is
typed.

A reading may end within an event.  Then that event is still unread, but fewer
of its bytes are missing.  The escape key is known only by what comes after it.
So it is unread, too, if the reading ends with it for want of room.

* `Typeahead.type` is what typing does.
* `Typeahead.read` is one reading.
* `cut_append` says that a reading neither loses nor reorders an event.
-/

namespace Chip8Console

/-- What is typed and not yet read. -/
structure Typeahead where
  /-- The unread events, the oldest first. -/
  unread : List TerminalEvent := []
  /-- How many bytes of the oldest of them have been read. -/
  begun : Nat := 0
  /-- Something was typed since the last reading. -/
  isFresh : Bool := false

namespace Typeahead

/-- The most bytes that one reading takes. -/
def readingSize : Nat := 1204

/-- Adds what is typed. -/
def type (t : Typeahead) (events : List TerminalEvent) : Typeahead :=
  { t with unread := t.unread ++ events, isFresh := t.isFresh || !events.isEmpty }

/-- With so many bytes at its beginning and after it, an event is read. -/
def isRead (event : TerminalEvent) (bytes : Nat) : Bool :=
  if event = .key { code := .escape } then KeyText.byteCount event < bytes
  else KeyText.byteCount event ≤ bytes

/-- Divides events into those that so many bytes are enough for and the rest.
In between stands how many bytes belong to the rest. -/
def cut (bytes : Nat) : List TerminalEvent → List TerminalEvent × Nat × List TerminalEvent
  | [] => ([], 0, [])
  | event :: rest =>
      if isRead event bytes then
        let (done, begun, unread) := cut (bytes - KeyText.byteCount event) rest
        (event :: done, begun, unread)
      else ([], bytes, event :: rest)

/-- One reading. -/
def read (t : Typeahead) : List TerminalEvent × Typeahead :=
  if t.isFresh then
    let (events, begun, unread) := cut (t.begun + readingSize) t.unread
    (events, { unread, begun })
  else ([], t)

/-- The events of one reading when nothing else is typed ahead. -/
def firstReading (events : List TerminalEvent) : List TerminalEvent :=
  (type {} events).read.1

/-- The two parts of the events make up the events. -/
theorem cut_append (bytes : Nat) (events : List TerminalEvent) :
    (cut bytes events).1 ++ (cut bytes events).2.2 = events := by
  induction events generalizing bytes with
  | nil => rfl
  | cons event rest ih =>
    unfold cut
    split
    · simp [ih]
    · rfl

end Typeahead

end Chip8Console
