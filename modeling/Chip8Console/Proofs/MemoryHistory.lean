import Chip8Console.Proofs.InstalledImages
import Chip8Console.Proofs.Sources
import Mathlib.Data.List.Induction

/-!
# A memory and its history

Each byte of a memory is the one that was written to it last, and else the one that
was there at first.  Only operations that succeed count as writes.  One that fails
changes nothing, however much was read before.

Whether an operation succeeds depends on the size of the memory alone.  The size never
changes, so a history can be judged by the size at its start.

* `Memory.Op.Writes`, `Memory.Op.Covers`: what an operation writes, and where.
* `Memory.Remembers`: the byte that a history leaves at a place.
* `Memory.perform_cases`: all that one operation can do.
* `Memory.remembers_after`: memory and history agree.
* `Memory.last_write_stays`: the main statement.
-/

namespace Chip8Console

namespace Memory

/-- Something done to a memory. -/
inductive Op where
  | load (address : UInt16) (data : Bytes)
  | loadFrom (address : UInt16) (source : Source)

/-- Carries out an operation. -/
def perform (m : Memory) : Op → Except Failure Unit × Memory
  | .load address data => m.load address data
  | .loadFrom address source => m.loadFrom address source

/-- The memory after operations in a row. -/
def after (m : Memory) : List Op → Memory
  | [] => m
  | op :: rest => (m.perform op).2.after rest

theorem after_append (m : Memory) (earlier later : List Op) :
    m.after (earlier ++ later) = (m.after earlier).after later := by
  induction earlier generalizing m with
  | nil => rfl
  | cons op rest ih => exact ih (m.perform op).2

/-! ## Writes -/

/-- An operation brings data for an address. -/
inductive Op.Brings : Op → UInt16 → Bytes → Prop where
  | load {address : UInt16} {data : Bytes} : Brings (.load address data) address data
  /-- A source brings its whole content. -/
  | loadFrom {address : UInt16} {source : Source} {data : Bytes} (holds : source.Holds data) :
      Brings (.loadFrom address source) address data

/-- To a memory of this size it writes that data. -/
structure Op.Writes (size : Nat) (op : Op) (address : UInt16) (data : Bytes) : Prop where
  brings : op.Brings address data
  fits : address.toNat + data.length ≤ size

/-- One of the bytes that it writes is for this place. -/
def Op.Covers (size : Nat) (op : Op) (place : Nat) : Prop :=
  ∃ address data, op.Writes size address data ∧ address.toNat ≤ place
    ∧ place < address.toNat + data.length

/-- The byte that a history leaves at a place of a memory. -/
inductive Remembers (m : Memory) (place : Nat) : List Op → Option UInt8 → Prop where
  /-- It was written, and nothing was written over it. -/
  | written {earlier later : List Op} {op : Op} {address : UInt16} {data : Bytes}
      (writes : op.Writes m.size address data) (low : address.toNat ≤ place)
      (high : place < address.toNat + data.length)
      (since : ∀ other ∈ later, ¬ other.Covers m.size place) :
      Remembers m place (earlier ++ op :: later) data[place - address.toNat]?
  /-- Nothing was written there. -/
  | initial {ops : List Op} (never : ∀ op ∈ ops, ¬ op.Covers m.size place) :
      Remembers m place ops (m.byte? place)

/-! ## One operation -/

section

variable {m : Memory} {op : Op} {address : UInt16} {data : Bytes} {place : Nat}

theorem perform_of_brings (brings : op.Brings address data) :
    m.perform op = m.load address data := by
  cases brings with
  | load => rfl
  | loadFrom holds => exact loadFrom_of_holds holds

theorem perform_of_writes (writes : op.Writes m.size address data) :
    m.perform op = (.ok (), m.splice address.toNat data) := by
  rw [perform_of_brings writes.brings]
  exact load_eq_ok.2 ⟨writes.fits, rfl⟩

/-- An operation writes its data, or it fails and nothing changes. -/
theorem perform_cases (m : Memory) (op : Op) :
    (∃ address data, op.Writes m.size address data)
      ∨ ∃ failure, m.perform op = (.error failure, m) := by
  have of_brings : ∀ {address data}, op.Brings address data →
      (∃ address data, op.Writes m.size address data)
        ∨ ∃ failure, m.perform op = (.error failure, m) := by
    intro address data brings
    by_cases fits : address.toNat + data.length ≤ m.size
    · exact .inl ⟨address, data, brings, fits⟩
    · exact .inr ⟨_, (perform_of_brings brings).trans (load_of_not_fits fits)⟩
  cases op with
  | load address data => exact of_brings .load
  | loadFrom address source =>
    rcases source.breaks_or_holds with ⟨text, breaks⟩ | ⟨data, holds⟩
    · exact .inr ⟨_, loadFrom_of_breaks breaks⟩
    · exact of_brings (.loadFrom holds)

theorem size_perform (m : Memory) (op : Op) : (m.perform op).2.size = m.size := by
  rcases m.perform_cases op with ⟨address, data, writes⟩ | ⟨failure, failed⟩
  · rw [perform_of_writes writes]
    exact size_splice writes.fits
  · rw [failed]

theorem byte?_perform_of_writes (writes : op.Writes m.size address data)
    (low : address.toNat ≤ place) (high : place < address.toNat + data.length) :
    (m.perform op).2.byte? place = data[place - address.toNat]? := by
  rw [perform_of_writes writes]
  show (m.splice address.toNat data).byte? place = _
  rw [byte?_splice writes.fits, if_pos ⟨low, high⟩]

theorem byte?_perform_of_not_covers (spared : ¬ op.Covers m.size place) :
    (m.perform op).2.byte? place = m.byte? place := by
  rcases m.perform_cases op with ⟨address, data, writes⟩ | ⟨failure, failed⟩
  · rw [perform_of_writes writes]
    show (m.splice address.toNat data).byte? place = _
    rw [byte?_splice writes.fits, if_neg fun inside => spared ⟨address, data, writes, inside⟩]
  · rw [failed]

end

/-! ## Histories -/

theorem size_after (m : Memory) (ops : List Op) : (m.after ops).size = m.size := by
  induction ops generalizing m with
  | nil => rfl
  | cons op rest ih => exact (ih _).trans (m.size_perform op)

/-- A byte stays until something is written over it. -/
theorem Remembers.concat {m : Memory} {place : Nat} {ops : List Op} {byte : Option UInt8}
    (h : m.Remembers place ops byte) {op : Op} (spared : ¬ op.Covers m.size place) :
    m.Remembers place (ops ++ [op]) byte := by
  have spared_end : ∀ other ∈ [op], ¬ other.Covers m.size place :=
    List.forall_mem_singleton.2 spared
  cases h with
  | written writes low high since =>
    rw [List.append_assoc, List.cons_append]
    exact .written writes low high (List.forall_mem_append.2 ⟨since, spared_end⟩)
  | initial never => exact .initial (List.forall_mem_append.2 ⟨never, spared_end⟩)

theorem remembers_after (m : Memory) (place : Nat) (ops : List Op) :
    m.Remembers place ops ((m.after ops).byte? place) := by
  induction ops using List.reverseRecOn with
  | nil => exact .initial (by simp)
  | append_singleton earlier op ih =>
    -- what the last operation does is judged by the size at its own time
    have size := m.size_after earlier
    rw [after_append, after, after]
    by_cases covers : op.Covers m.size place
    · obtain ⟨address, data, writes, low, high⟩ := covers
      have now : op.Writes (m.after earlier).size address data := by rwa [size]
      rw [byte?_perform_of_writes now low high]
      exact .written writes low high (by simp)
    · have spared : ¬ op.Covers (m.after earlier).size place := by rwa [size]
      rw [byte?_perform_of_not_covers spared]
      exact ih.concat covers

/-- A slice has the bytes of its range, in their order. -/
theorem slice?_eq_some {m : Memory} {address : UInt16} {length : Nat}
    (fits : address.toNat + length ≤ m.size) :
    ∃ bytes, m.slice? address length = some bytes ∧ bytes.length = length
      ∧ ∀ i < length, bytes[i]? = m.byte? (address.toNat + i) := by
  refine ⟨(m.bytes.drop address.toNat).take length, if_pos fits, ?_, ?_⟩
  · unfold size at fits
    rw [List.length_take, List.length_drop]
    omega
  · intro i inside
    rw [List.getElem?_take_of_lt inside, List.getElem?_drop, byte?]

/-- **The last write stays.**  Take a memory after any history.  Its size is what it was
at first, and every byte is the one last written there, or else the first one.  Data is
loaded exactly if it ends within the memory.  Then the bytes of its range are replaced,
and no other.  Otherwise address, length and size are reported, and nothing changes.  A
source is loaded like its whole content, and if it breaks nothing changes.  A slice has
the bytes of its range if it ends within the memory, and cannot be read otherwise. -/
theorem last_write_stays {m s : Memory} {ops : List Op} (used : s = m.after ops) :
    s.size = m.size
      ∧ (∀ place, m.Remembers place ops (s.byte? place))
      ∧ (∀ address data,
        ((s.load address data).1 = .ok () ↔ address.toNat + data.length ≤ m.size)
        ∧ (address.toNat + data.length ≤ m.size → ∀ place,
          (s.load address data).2.byte? place
            = if address.toNat ≤ place ∧ place < address.toNat + data.length
              then data[place - address.toNat]? else s.byte? place)
        ∧ (m.size < address.toNat + data.length →
          s.load address data = (.error (.outOfBounds address data.length m.size), s)))
      ∧ (∀ source : Source, (∃ text, source.Breaks text) ∨ ∃ content, source.Holds content)
      ∧ (∀ address source content, source.Holds content →
        s.loadFrom address source = s.load address content)
      ∧ (∀ address source text, source.Breaks text →
        s.loadFrom address source = (.error (.io text), s))
      ∧ (∀ address length, address.toNat + length ≤ m.size →
        ∃ bytes, s.slice? address length = some bytes ∧ bytes.length = length
          ∧ ∀ i < length, bytes[i]? = s.byte? (address.toNat + i))
      ∧ ∀ address length, m.size < address.toNat + length → s.slice? address length = none := by
  have size : s.size = m.size := by rw [used, size_after]
  rw [← size]
  refine ⟨rfl, ?_, ?_, Source.breaks_or_holds, fun _ _ _ => loadFrom_of_holds,
    fun _ _ _ => loadFrom_of_breaks, fun _ _ => slice?_eq_some, ?_⟩
  · rw [used]
    exact fun place => m.remembers_after place ops
  · intro address data
    refine ⟨?_, ?_, fun long => load_of_not_fits (Nat.not_le_of_lt long)⟩
    · by_cases fits : address.toNat + data.length ≤ s.size
      · rw [load_eq_ok.2 ⟨fits, rfl⟩]
        exact iff_of_true rfl fits
      · rw [load_of_not_fits fits]
        exact iff_of_false nofun fits
    · intro fits place
      rw [load_eq_ok.2 ⟨fits, rfl⟩]
      exact byte?_splice fits place
  · intro address length long
    exact if_neg (Nat.not_le_of_lt long)

/-- Two writes that overlap, of which the second comes in pieces, and two failures. -/
def overlapping : List Op := [
  .load 0 [1, 2, 3, 4],
  .loadFrom 2 (.piece [9] (.piece [8] .ended)),
  .load 6 [5, 5, 5],
  .loadFrom 0 (.piece [7] (.broken "torn"))]

/-- In eight bytes the first write is kept where the second does not reach, and the
failures leave nothing.  Beyond the end there is no room even for no data. -/
theorem last_write_stays_overlapping :
    (zeros 8).Remembers 1 overlapping (some 2)
      ∧ (zeros 8).Remembers 2 overlapping (some 9)
      ∧ (∃ bytes, ((zeros 8).after overlapping).slice? 0 4 = some bytes
        ∧ bytes[1]? = some 2 ∧ bytes[2]? = some 9)
      ∧ ((zeros 8).after overlapping).slice? 7 2 = none
      ∧ (((zeros 8).after overlapping).load 8 []).1 = .ok ()
      ∧ ((zeros 8).after overlapping).load 9 []
        = (.error (.outOfBounds 9 0 8), (zeros 8).after overlapping)
      ∧ ((zeros 8).after overlapping).loadFrom 4 (.piece [6] (.piece [] (.broken "late")))
        = ((zeros 8).after overlapping).load 4 [6]
      ∧ ((zeros 8).after overlapping).loadFrom 4 (.piece [6] (.broken "torn"))
        = (.error (.io "torn"), (zeros 8).after overlapping) := by
  obtain ⟨_, remembers, loads, _, whole, torn, slices, beyond⟩ :=
    last_write_stays (m := zeros 8) (s := (zeros 8).after overlapping) rfl
  obtain ⟨bytes, slice, _, each⟩ := slices 0 4 (by decide)
  have holds : Source.Holds (.piece [6] (.piece [] (.broken "late"))) [6] :=
    .piece (by decide) .empty
  exact ⟨remembers 1, remembers 2, ⟨bytes, slice, each 1 (by decide), each 2 (by decide)⟩,
    beyond 7 2 (by decide), (loads 8 []).1.2 (by decide), (loads 9 []).2.2 (by decide),
    whole 4 _ _ holds, torn 4 _ _ (.piece (by decide) .broken)⟩

end Memory

end Chip8Console
