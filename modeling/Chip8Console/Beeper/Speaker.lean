import Chip8Console.Numeric.Decimal

/-!
# The speaker

A speaker can be asked to start a tone and to stop one, and may refuse either.
Here it is known by its answers.  The answers to come are listed, apart for the
two requests, and after the end of a list every request succeeds.  The requests
made so far are on record with their answers.

A refused request has no effect on the speaker.  `Speaker.live` counts the
tones that have been started and not stopped.
-/

namespace Chip8Console

/-- Pitch of the tone, in hertz. -/
def tonePitch : Nat := 440

/-- Gain of the tone, for a speaker that has a volume. -/
def toneGain : Decimal := ⟨1, -1⟩

/-- An answer of the speaker: nothing on success, and else the reason. -/
abbrev SpeakerAnswer := Option String

/-- What a speaker can be asked. -/
inductive SpeakerRequest where
  | beep
  | stop
  deriving DecidableEq

/-- A request on record, with its answer. -/
structure SpeakerCall where
  request : SpeakerRequest
  answer : SpeakerAnswer
  deriving DecidableEq

/-- What a call adds to the number of tones. -/
def SpeakerCall.tones : SpeakerCall → Int
  | ⟨_, some _⟩ => 0
  | ⟨.beep, none⟩ => 1
  | ⟨.stop, none⟩ => -1

/-- What a list of calls adds to the number of tones. -/
def SpeakerCall.balance : List SpeakerCall → Int
  | [] => 0
  | call :: rest => call.tones + balance rest

/-- A speaker with its answers to come and its record. -/
structure Speaker where
  /-- The answers to the next requests to start. -/
  beepAnswers : List SpeakerAnswer := []
  /-- The answers to the next requests to stop. -/
  stopAnswers : List SpeakerAnswer := []
  /-- The requests made so far, oldest first. -/
  calls : Array SpeakerCall := #[]

namespace Speaker

/-- Asks for a tone to start. -/
def beep (s : Speaker) : SpeakerAnswer × Speaker :=
  let answer := s.beepAnswers.head?.join
  (answer, { s with beepAnswers := s.beepAnswers.tail, calls := s.calls.push ⟨.beep, answer⟩ })

/-- Asks for a tone to stop. -/
def stop (s : Speaker) : SpeakerAnswer × Speaker :=
  let answer := s.stopAnswers.head?.join
  (answer, { s with stopAnswers := s.stopAnswers.tail, calls := s.calls.push ⟨.stop, answer⟩ })

/-- How many tones have been started and not stopped. -/
def live (s : Speaker) : Int := SpeakerCall.balance s.calls.toList

/-- A speaker that never refuses. -/
def willing : Speaker := {}

end Speaker

end Chip8Console
