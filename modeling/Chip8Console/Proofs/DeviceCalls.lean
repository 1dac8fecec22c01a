import Chip8Console.Devices.Basic

/-!
# What a call of a core changes

Answering a call changes the device that it is about, and at most the parked
fault and the log besides.  `Devices.answer` is built from four updates, and
each of them comes with what it leaves alone.
-/

namespace Chip8Console

namespace Devices

variable (d : Devices)

/-! ## The updates -/

@[simp] theorem screen_report (entries : List LogEntry) : (d.report entries).screen = d.screen := rfl

@[simp] theorem screen_withBeeper (b : Beeper) : (d.withBeeper b).screen = d.screen := rfl
@[simp] theorem beeper_withBeeper (b : Beeper) : (d.withBeeper b).beeper = b := rfl
@[simp] theorem fault_withBeeper (b : Beeper) : (d.withBeeper b).fault = d.fault := rfl
@[simp] theorem diagnostics_withBeeper (b : Beeper) :
    (d.withBeeper b).diagnostics = d.diagnostics := rfl

@[simp] theorem screen_parkError (outcome : Except Failure Unit) :
    (d.parkError outcome).screen = d.screen := by cases outcome <;> rfl
@[simp] theorem beeper_parkError (outcome : Except Failure Unit) :
    (d.parkError outcome).beeper = d.beeper := by cases outcome <;> rfl
@[simp] theorem diagnostics_parkError (outcome : Except Failure Unit) :
    (d.parkError outcome).diagnostics = d.diagnostics := by cases outcome <;> rfl

/-- Only a failure is parked, and only if nothing is parked yet. -/
theorem fault_parkError (outcome : Except Failure Unit) :
    (d.parkError outcome).fault
      = d.fault.or (match outcome with
        | .ok () => none
        | .error failure => some failure) := by
  cases outcome with
  | ok value => rw [parkError, Option.or_none]
  | error failure => rfl

/-- A value that is shown goes to the log, if anywhere. -/
theorem diagnose_eq (text : String) : ∃ log, d.diagnose text = { d with log } := by
  rw [diagnose]
  split
  · exact ⟨_, rfl⟩
  · exact ⟨d.log, rfl⟩

@[simp] theorem screen_diagnose (text : String) : (d.diagnose text).screen = d.screen := by
  obtain ⟨log, same⟩ := d.diagnose_eq text
  rw [same]

@[simp] theorem beeper_diagnose (text : String) : (d.diagnose text).beeper = d.beeper := by
  obtain ⟨log, same⟩ := d.diagnose_eq text
  rw [same]

@[simp] theorem fault_diagnose (text : String) : (d.diagnose text).fault = d.fault := by
  obtain ⟨log, same⟩ := d.diagnose_eq text
  rw [same]

@[simp] theorem diagnostics_diagnose (text : String) :
    (d.diagnose text).diagnostics = d.diagnostics := by
  obtain ⟨log, same⟩ := d.diagnose_eq text
  rw [same]

/-! ## Answers -/

/-- A draw changes the random source.  This is stated apart, because unfolding
`answer` here would set off a computation with the drawn word. -/
theorem answer_randomByte :
    (d.answer .randomByte).2 = { d with random := d.random.next.2 } := rfl

/-- A core draws into the back plane only. -/
theorem front_answer (c : DeviceCall) : (d.answer c).2.screen.front = d.screen.front := by
  cases c with
  | randomByte => rw [answer_randomByte]
  | _ => simp only [answer, screen_parkError, screen_withBeeper, screen_diagnose, Screen.clear,
      Screen.toggle]

theorem diagnostics_answer (c : DeviceCall) : (d.answer c).2.diagnostics = d.diagnostics := by
  cases c with
  | randomByte => rw [answer_randomByte]
  | _ => simp only [answer, diagnostics_parkError, diagnostics_withBeeper, diagnostics_diagnose]

end Devices

end Chip8Console
