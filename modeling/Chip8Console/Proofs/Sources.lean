import Chip8Console.Memory.Source

/-!
# What reading a source comes to

A source breaks after some pieces, or it comes to an end.  It is said here piece by
piece, and reading agrees: the pieces are joined in their order, up to the end or the
first empty piece.  How the content is cut into pieces makes no difference.

* `Source.Breaks`, `Source.Holds`: the two ways in which reading goes.
* `Source.Breaks.readAll`, `Source.Holds.readAll`: what reading answers.
* `Source.breaks_or_holds`: there is no third way.
* `Memory.loadFrom_of_holds`, `Memory.loadFrom_of_breaks`: what is done with it.
-/

namespace Chip8Console

namespace Source

/-- Reading fails, after some pieces or none. -/
inductive Breaks (text : String) : Source → Prop where
  | broken : Breaks text (.broken text)
  | piece {bytes : Bytes} {rest : Source} (nonempty : bytes ≠ []) (later : Breaks text rest) :
      Breaks text (.piece bytes rest)

/-- Reading comes to an end, with the whole content. -/
inductive Holds : Source → Bytes → Prop where
  | ended : Holds .ended []
  /-- An empty piece is an end. -/
  | empty {rest : Source} : Holds (.piece [] rest) []
  | piece {bytes more : Bytes} {rest : Source} (nonempty : bytes ≠ []) (later : Holds rest more) :
      Holds (.piece bytes rest) (bytes ++ more)

/-- What was read before stands in front of the rest. -/
theorem readOn_eq (s : Source) (before : List Bytes) :
    s.readOn before = s.readAll.map (before.reverse.flatten ++ ·) := by
  induction s generalizing before with
  | ended => simp [readOn, readAll, Except.map]
  | broken text => rfl
  | piece bytes rest ih =>
    rw [readAll, readOn, readOn]
    cases bytes.isEmpty with
    | true => simp [Except.map]
    | false =>
      simp only [Bool.false_eq_true, if_false]
      rw [ih (bytes :: before), ih [bytes]]
      cases rest.readAll with
      | error failure => rfl
      | ok more => simp [Except.map]

theorem readAll_piece {bytes : Bytes} (nonempty : bytes ≠ []) (rest : Source) :
    (piece bytes rest).readAll = rest.readAll.map (bytes ++ ·) := by
  have some_bytes : bytes.isEmpty = false := by simpa using nonempty
  rw [readAll, readOn, some_bytes, if_neg Bool.false_ne_true, readOn_eq]
  simp

theorem Breaks.readAll {s : Source} {text : String} (h : s.Breaks text) :
    s.readAll = .error (.io text) := by
  induction h with
  | broken => rfl
  | piece nonempty _ ih => rw [readAll_piece nonempty, ih]; rfl

theorem Holds.readAll {s : Source} {content : Bytes} (h : s.Holds content) :
    s.readAll = .ok content := by
  induction h with
  | ended => rfl
  | empty => rfl
  | piece nonempty _ ih => rw [readAll_piece nonempty, ih]; rfl

/-- Every source does one or the other. -/
theorem breaks_or_holds (s : Source) : (∃ text, s.Breaks text) ∨ ∃ content, s.Holds content := by
  induction s with
  | ended => exact .inr ⟨[], .ended⟩
  | broken text => exact .inl ⟨text, .broken⟩
  | piece bytes rest ih =>
    by_cases nonempty : bytes = []
    · subst nonempty
      exact .inr ⟨[], .empty⟩
    · rcases ih with ⟨text, breaks⟩ | ⟨more, holds⟩
      · exact .inl ⟨text, .piece nonempty breaks⟩
      · exact .inr ⟨bytes ++ more, .piece nonempty holds⟩

end Source

namespace Memory

variable {m : Memory} {address : UInt16} {source : Source}

/-- However it is cut, a content is loaded as a whole. -/
theorem loadFrom_of_holds {data : Bytes} (holds : source.Holds data) :
    m.loadFrom address source = m.load address data := by
  rw [loadFrom, holds.readAll]

theorem loadFrom_of_breaks {text : String} (breaks : source.Breaks text) :
    m.loadFrom address source = (.error (.io text), m) := by
  rw [loadFrom, breaks.readAll]

end Memory

end Chip8Console
