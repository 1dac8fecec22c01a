import Chip8Console.Devices.Basic
import Chip8Console.Terminal.KeyEvent

/-!
# Keys of a terminal

A terminal reports that a key is struck, and again while it repeats, but never
that it goes up.  So a key counts as held until it has not been seen for the
*hold time*.

The tracker keeps for each key that counts as held the time when it was last
seen.  A key that is struck and not in the table is a press.  A key in the table
is only seen again, so a repeated key is not pressed twice.  A key that the
keypad does not know never enters the table.

* `KeyTracker.handle` takes in one key event.
* `KeyTracker.expire` releases the keys that have not been seen for the hold
  time.
* `KeyTracker.drain` takes in all waiting events, also those after a request
  to quit, and then expires.

Times are in milliseconds.  A time that lies ahead counts as now.
-/

namespace Chip8Console

/-- What came of a key event. -/
inductive KeyOutcome where
  /-- It asks to quit. -/
  | quit
  | pressed (key : Char)
  /-- A key that counts as held is seen again. -/
  | repeated (key : Char)
  /-- The keypad does not know the key. -/
  | unmapped (key : Char)
  /-- It means nothing. -/
  | ignored
  deriving DecidableEq

/-- What the log says about the outcome. -/
def KeyOutcome.notes : KeyOutcome → List LogEntry
  | .unmapped key => [⟨.debug, s!"ignoring unmapped key {quoted key}"⟩]
  | _ => []

/-- The keys of a terminal that count as held. -/
structure KeyTracker where
  /-- How long a key counts as held after it was seen. -/
  hold : Nat
  /-- The keys that count as held, and when they were last seen. -/
  seen : List (Char × Nat) := []
  /-- Every key is in the table once. -/
  keys_nodup : (seen.map Prod.fst).Nodup := by simp

namespace KeyTracker

/-- When a key that counts as held was last seen. -/
def seenAt? (t : KeyTracker) (key : Char) : Option Nat := t.seen.lookup key

/-- The key was seen at the given time. -/
def mark (t : KeyTracker) (key : Char) (now : Nat) : KeyTracker where
  hold := t.hold
  seen := (key, now) :: t.seen.filter fun entry => entry.1 ≠ key
  keys_nodup := by
    rw [List.map_cons, List.nodup_cons]
    refine ⟨?_, t.keys_nodup.sublist (List.filter_sublist.map _)⟩
    simp

/-- A table entry has not been renewed for the hold time. -/
def hasExpired (t : KeyTracker) (now : Nat) (entry : Char × Nat) : Bool :=
  t.hold ≤ now - entry.2

/-- The table without the entries that have expired. -/
def dropExpired (t : KeyTracker) (now : Nat) : KeyTracker where
  hold := t.hold
  seen := t.seen.filter fun entry => !t.hasExpired now entry
  keys_nodup := t.keys_nodup.sublist (List.filter_sublist.map _)

/-- The keys whose entries have expired. -/
def expiredKeys (t : KeyTracker) (now : Nat) : List Char :=
  (t.seen.filter (t.hasExpired now)).map Prod.fst

/-- Takes in a key event that arrives at the given time. -/
def handle (t : KeyTracker) (p : Keypad) (event : KeyEvent) (now : Nat) :
    KeyOutcome × KeyTracker × Keypad :=
  match event.meaning with
  | .quit => (.quit, t, p)
  | .nothing => (.ignored, t, p)
  | .typed key =>
      match t.seenAt? key with
      | some _ => (.repeated key, t.mark key now, p)
      | none =>
          match p.press key with
          | (true, p) => (.pressed key, t.mark key now, p)
          | (false, _) => (.unmapped key, t, p)

/-- Releases the keys that have expired. -/
def expire (t : KeyTracker) (p : Keypad) (now : Nat) : KeyTracker × Keypad :=
  (t.dropExpired now, (t.expiredKeys now).foldl (fun p key => (p.release key).2) p)

/-- Takes in events one after another, each at its own time. -/
def handleAll (t : KeyTracker) (p : Keypad) :
    List (Nat × TerminalEvent) → List KeyOutcome × KeyTracker × Keypad
  | [] => ([], t, p)
  | (_, .mouse) :: rest | (_, .resize _ _) :: rest => t.handleAll p rest
  | (now, .key event) :: rest =>
      let (outcome, t, p) := t.handle p event now
      let (outcomes, t, p) := t.handleAll p rest
      (outcome :: outcomes, t, p)

/-- Takes in all waiting events and then releases the keys that have expired. -/
def drain (t : KeyTracker) (p : Keypad) (events : List (Nat × TerminalEvent)) (now : Nat) :
    List KeyOutcome × KeyTracker × Keypad :=
  let (outcomes, t, p) := t.handleAll p events
  (outcomes, t.expire p now)

/-! ## Operations as data -/

/-- Something done to a tracker and the keypad behind it. -/
inductive Op where
  /-- A key event arrives. -/
  | key (event : KeyEvent) (now : Nat)
  /-- Release what has expired. -/
  | expire (now : Nat)
  /-- Take in all waiting events, then release what has expired. -/
  | drain (events : List (Nat × TerminalEvent)) (now : Nat)

/-- Carries out an operation.  The answer is what came of its key events. -/
def perform (t : KeyTracker) (p : Keypad) : Op → List KeyOutcome × KeyTracker × Keypad
  | .key event now =>
      let (outcome, t, p) := t.handle p event now
      ([outcome], t, p)
  | .expire now => ([], t.expire p now)
  | .drain events now => t.drain p events now

end KeyTracker

/-- Carries out an operation on a tracker and the keypad of the devices, with
its notes in the log. -/
def Devices.track (d : Devices) (t : KeyTracker) (op : KeyTracker.Op) :
    List KeyOutcome × KeyTracker × Devices :=
  let (outcomes, t, keypad) := t.perform d.keypad op
  (outcomes, t, { d with keypad }.report (outcomes.flatMap KeyOutcome.notes))

end Chip8Console
