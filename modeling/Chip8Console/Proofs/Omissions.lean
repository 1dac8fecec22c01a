import Mathlib.Data.List.Basic

/-!
# Lists with entries left out

Some entries of a list may be *left out*, any of those with a given property and none
of the others.  What is kept keeps its order.  Leaving out is said of an entry in its
place, because the same entry may stand in a list more than once.

* `Omits`: what is kept when entries with a property are left out.
* `Omits.filter`: all of them may be left out.
* `Omits.filter_eq`: who looks at the other entries only sees no difference.
-/

namespace Chip8Console

universe u

/-- The second list is the first without some entries that have the property. -/
inductive Omits {α : Type u} (P : α → Prop) : List α → List α → Prop where
  | nil : Omits P [] []
  /-- An entry is kept. -/
  | keep {entry : α} {entries kept : List α} (rest : Omits P entries kept) :
      Omits P (entry :: entries) (entry :: kept)
  /-- An entry with the property is left out. -/
  | leaveOut {entry : α} {entries kept : List α} (fits : P entry) (rest : Omits P entries kept) :
      Omits P (entry :: entries) kept

namespace Omits

variable {α : Type u} {P : α → Prop}

/-- All entries that fail a test are left out. -/
theorem filter {test : α → Bool} {entries : List α}
    (fits : ∀ entry ∈ entries, test entry = false → P entry) :
    Omits P entries (entries.filter test) := by
  induction entries with
  | nil => exact .nil
  | cons entry rest ih =>
    obtain ⟨first, others⟩ := List.forall_mem_cons.1 fits
    cases passed : test entry with
    | true =>
      rw [List.filter_cons_of_pos passed]
      exact .keep (ih others)
    | false =>
      rw [List.filter_cons_of_neg (by rw [passed]; exact Bool.false_ne_true)]
      exact .leaveOut (first passed) (ih others)

/-- A test that no entry with the property passes finds the same entries. -/
theorem filter_eq {entries kept : List α} (h : Omits P entries kept) {test : α → Bool}
    (fails : ∀ entry, P entry → test entry = false) : kept.filter test = entries.filter test := by
  induction h with
  | nil => rfl
  | keep rest ih => rw [List.filter_cons, List.filter_cons, ih]
  | leaveOut fits rest ih =>
    rw [List.filter_cons_of_neg (by rw [fails _ fits]; exact Bool.false_ne_true), ih]

end Omits

end Chip8Console
