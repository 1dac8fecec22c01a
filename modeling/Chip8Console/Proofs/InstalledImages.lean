import Chip8Console.Memory.Images

/-!
# What the two images leave in memory

Loading copies data over a range of addresses and touches nothing else.  The font ends
before the program begins, so the two never meet.  A memory with room for the program
has room for the font.  That leaves three outcomes: both images are written, or the font
alone, or nothing.  In each the memory can be given byte by byte.

* `Memory.byte?_splice`: one copy.
* `Memory.load_eq_ok`: when a load succeeds, and with what.
* `Memory.install_cases`: the three outcomes.
* `Memory.outcome_install`: when both images fit, and else which does not.
* `Memory.byte?_after_install`: the memory after an attempt, whatever its outcome.
* `Memory.byte?_install`: the memory that a session starts with.
* `Memory.install_keeps_apart`: the main statement.
-/

namespace Chip8Console

namespace Memory

@[simp] theorem size_zeros (size : Nat) : (zeros size).size = size := List.length_replicate

/-- Data that fits replaces the bytes in its range, and no other. -/
theorem byte?_splice {m : Memory} {start : Nat} {data : Bytes}
    (fits : start + data.length ≤ m.size) (address : Nat) :
    (m.splice start data).byte? address
      = if start ≤ address ∧ address < start + data.length then data[address - start]?
        else m.byte? address := by
  unfold size at fits
  have before : (m.bytes.take start).length = start := by
    rw [List.length_take]
    omega
  unfold splice byte?
  by_cases low : address < start
  · rw [if_neg (by omega), List.append_assoc, List.getElem?_append_left (by omega),
      List.getElem?_take_of_lt low]
  · by_cases inside : address < start + data.length
    · rw [if_pos (by omega), List.append_assoc, List.getElem?_append_right (by omega), before,
        List.getElem?_append_left (by omega)]
    · rw [if_neg (by omega), List.getElem?_append_right (by rw [List.length_append]; omega),
        List.getElem?_drop, List.length_append, before]
      congr 1
      omega

theorem load_eq_ok {m after : Memory} {address : UInt16} {data : Bytes} :
    m.load address data = (.ok (), after)
      ↔ address.toNat + data.length ≤ m.size ∧ after = m.splice address.toNat data := by
  unfold load
  split
  · next fits => simp [fits, eq_comm]
  · next fits => simp [fits]

theorem load_of_not_fits {m : Memory} {address : UInt16} {data : Bytes}
    (long : ¬ address.toNat + data.length ≤ m.size) :
    m.load address data = (.error (.outOfBounds address data.length m.size), m) := by
  rw [load, if_neg long]

/-! ## Both images -/

/-- The font ends before the program begins, and whatever has room for a program has
room for the font. -/
theorem font_below_program : fontAddress.toNat + font.length ≤ programAddress.toNat := by decide

/-- Both images are written, or the font alone, or nothing. -/
theorem install_cases (m : Memory) (program : Bytes) :
    (programAddress.toNat + program.length ≤ m.size
        ∧ m.install program = (.ok (), (m.splice fontAddress.toNat font).splice
            programAddress.toNat program))
      ∨ (fontAddress.toNat + font.length ≤ m.size
        ∧ m.size < programAddress.toNat + program.length
        ∧ m.install program = (.error (.outOfBounds programAddress program.length m.size),
            m.splice fontAddress.toNat font))
      ∨ (m.size < fontAddress.toNat + font.length
        ∧ m.install program = (.error (.outOfBounds fontAddress font.length m.size), m)) := by
  by_cases font_fits : fontAddress.toNat + font.length ≤ m.size
  · have written : m.load fontAddress font = (.ok (), m.splice fontAddress.toNat font) :=
      load_eq_ok.2 ⟨font_fits, rfl⟩
    have kept := size_splice font_fits
    rw [install, written]
    by_cases fits : programAddress.toNat + program.length ≤ m.size
    · refine .inl ⟨fits, load_eq_ok.2 ⟨?_, rfl⟩⟩
      rwa [kept]
    · refine .inr (.inl ⟨font_fits, Nat.lt_of_not_le fits, ?_⟩)
      have long : ¬ programAddress.toNat + program.length
          ≤ (m.splice fontAddress.toNat font).size := by rwa [kept]
      exact (load_of_not_fits long).trans (by rw [kept])
  · refine .inr (.inr ⟨Nat.lt_of_not_le font_fits, ?_⟩)
    rw [install, load_of_not_fits font_fits]

/-- The two images are written if each of them fits.  The first that does not is
reported. -/
theorem outcome_install (m : Memory) (program : Bytes) :
    (m.install program).1
      = if fontAddress.toNat + font.length ≤ m.size then
          if programAddress.toNat + program.length ≤ m.size then .ok ()
          else .error (.outOfBounds programAddress program.length m.size)
        else .error (.outOfBounds fontAddress font.length m.size) := by
  have below := font_below_program
  rcases m.install_cases program with
    ⟨fits, written⟩ | ⟨font_fits, short, written⟩ | ⟨short, written⟩
  · rw [written, if_pos (by omega), if_pos fits]
  · rw [written, if_pos font_fits, if_neg (Nat.not_le_of_lt short)]
  · rw [written, if_neg (Nat.not_le_of_lt short)]

theorem size_install (m : Memory) (program : Bytes) : (m.install program).2.size = m.size := by
  have below := font_below_program
  rcases m.install_cases program with ⟨fits, written⟩ | ⟨font_fits, _, written⟩ | ⟨_, written⟩
  · have font_fits : fontAddress.toNat + font.length ≤ m.size := by omega
    have kept := size_splice font_fits
    rw [written, ← kept]
    exact size_splice (by rwa [kept])
  · rw [written]
    exact size_splice font_fits
  · rw [written]

/-- What is in memory after an attempt to write both images, byte by byte. -/
theorem byte?_after_install (m : Memory) (program : Bytes) (address : Nat) :
    (m.install program).2.byte? address
      = if programAddress.toNat + program.length ≤ m.size ∧ programAddress.toNat ≤ address
          ∧ address < programAddress.toNat + program.length
        then program[address - programAddress.toNat]?
        else if fontAddress.toNat + font.length ≤ m.size ∧ fontAddress.toNat ≤ address
          ∧ address < fontAddress.toNat + font.length
        then font[address - fontAddress.toNat]?
        else m.byte? address := by
  have below := font_below_program
  rcases m.install_cases program with
    ⟨fits, written⟩ | ⟨font_fits, short, written⟩ | ⟨short, written⟩
  · have font_fits : fontAddress.toNat + font.length ≤ m.size := by omega
    have room : programAddress.toNat + program.length
        ≤ (m.splice fontAddress.toNat font).size := by rwa [size_splice font_fits]
    simp only [written, byte?_splice room, byte?_splice font_fits, fits, font_fits, true_and]
  · have no_room : ¬ programAddress.toNat + program.length ≤ m.size := Nat.not_le_of_lt short
    simp only [written, byte?_splice font_fits, no_room, font_fits, false_and, true_and, if_false]
  · have no_room : ¬ programAddress.toNat + program.length ≤ m.size := by omega
    have no_font : ¬ fontAddress.toNat + font.length ≤ m.size := Nat.not_le_of_lt short
    simp only [written, no_room, no_font, false_and, if_false]

/-- What the two images leave behind, byte by byte. -/
theorem byte?_install {m after : Memory} {program : Bytes}
    (written : m.install program = (.ok (), after)) :
    after.size = m.size ∧ ∀ address, after.byte? address
      = if programAddress.toNat ≤ address ∧ address < programAddress.toNat + program.length
        then program[address - programAddress.toNat]?
        else if fontAddress.toNat ≤ address ∧ address < fontAddress.toNat + font.length
        then font[address - fontAddress.toNat]?
        else m.byte? address := by
  have below := font_below_program
  have size := m.size_install program
  have bytes := m.byte?_after_install program
  have fits : programAddress.toNat + program.length ≤ m.size := by
    rcases m.install_cases program with ⟨fits, _⟩ | ⟨_, _, failed⟩ | ⟨_, failed⟩
    · exact fits
    · rw [written] at failed
      cases failed
    · rw [written] at failed
      cases failed
  have font_fits : fontAddress.toNat + font.length ≤ m.size := by omega
  rw [written] at size bytes
  refine ⟨size, ?_⟩
  intro address
  simpa only [fits, font_fits, true_and] using bytes address

/-- A memory is known by its bytes. -/
theorem eq_of_byte? {m m' : Memory} (same : ∀ address, m.byte? address = m'.byte? address) :
    m = m' := by
  have bytes : m.bytes = m'.bytes := List.ext_getElem? same
  cases m
  cases m'
  exact congrArg mk bytes

/-- After a first program, a second one that fits replaces the bytes of its range, and one
that does not fit changes nothing. -/
theorem byte?_install_install (m : Memory) (program other : Bytes) (address : Nat) :
    ((m.install program).2.install other).2.byte? address
      = if programAddress.toNat + other.length ≤ m.size ∧ programAddress.toNat ≤ address
          ∧ address < programAddress.toNat + other.length
        then other[address - programAddress.toNat]?
        else (m.install program).2.byte? address := by
  have below := font_below_program
  rw [byte?_after_install, size_install]
  split
  · rfl
  · split
    · next font_range =>
      rw [byte?_after_install, if_neg (by omega), if_pos font_range]
    · rfl

/-- Writing the same images once more changes nothing and answers the same. -/
theorem install_install (m : Memory) (program : Bytes) :
    (m.install program).2.install program = m.install program := by
  apply Prod.ext
  · rw [outcome_install, outcome_install, size_install]
  · apply eq_of_byte?
    intro address
    rw [byte?_install_install]
    split
    · next inside => rw [byte?_after_install, if_pos inside]
    · rfl

/-- **The two images keep apart.**  They are written exactly if the memory reaches to the
end of the program.  Then the font stands from `0x50` to `0xA0`, the program from `0x200`
on, and every other byte is as it was.  If there is no room for the font, it is reported
and nothing changes.  If there is room for the font alone, the program is reported and
the font is all that is written.  Doing it again changes nothing.  A second program fares
as it would have at first.  If it fits it replaces the bytes of its own range, and
whether it does or not, the font stays and no other byte changes. -/
theorem install_keeps_apart (m : Memory) (program : Bytes) :
    ((m.install program).1 = .ok () ↔ 0x200 + program.length ≤ m.size)
      ∧ (0x200 + program.length ≤ m.size → ∀ address, (m.install program).2.byte? address
        = if 0x200 ≤ address ∧ address < 0x200 + program.length then program[address - 0x200]?
          else if 0x50 ≤ address ∧ address < 0xA0 then font[address - 0x50]?
          else m.byte? address)
      ∧ (m.size < 0xA0 → m.install program = (.error (.outOfBounds 0x50 80 m.size), m))
      ∧ (0xA0 ≤ m.size → m.size < 0x200 + program.length →
        (m.install program).1 = .error (.outOfBounds 0x200 program.length m.size)
        ∧ ∀ address, (m.install program).2.byte? address
          = if 0x50 ≤ address ∧ address < 0xA0 then font[address - 0x50]? else m.byte? address)
      ∧ (m.install program).2.install program = m.install program
      ∧ ∀ other,
        ((m.install program).2.install other).1 = (m.install other).1
        ∧ (∀ address, ((m.install program).2.install other).2.byte? address
          = if 0x200 + other.length ≤ m.size ∧ 0x200 ≤ address ∧ address < 0x200 + other.length
            then other[address - 0x200]? else (m.install program).2.byte? address)
        ∧ (0xA0 ≤ m.size → ∀ address, 0x50 ≤ address → address < 0xA0 →
          ((m.install program).2.install other).2.byte? address = font[address - 0x50]?) := by
  have font_at : fontAddress.toNat = 0x50 := rfl
  have program_at : programAddress.toNat = 0x200 := rfl
  have font_length : font.length = 80 := rfl
  have outcome := m.outcome_install program
  have bytes := m.byte?_after_install program
  simp only [font_at, program_at, font_length, Nat.reduceAdd] at outcome bytes
  refine ⟨?_, ?_, ?_, ?_, m.install_install program, ?_⟩
  · rw [outcome]
    split
    · next font_fits =>
      split
      · next fits => exact iff_of_true rfl fits
      · next short => exact iff_of_false nofun short
    · exact iff_of_false nofun (by omega)
  · intro fits address
    have font_fits : 160 ≤ m.size := by omega
    simpa only [fits, font_fits, true_and] using bytes address
  · intro short
    rcases m.install_cases program with ⟨fits, _⟩ | ⟨font_fits, _⟩ | ⟨_, failed⟩
    · omega
    · omega
    · exact failed
  · intro font_fits short
    have no_room : ¬ 0x200 + program.length ≤ m.size := Nat.not_le_of_lt short
    rw [if_pos font_fits, if_neg no_room] at outcome
    refine ⟨outcome, ?_⟩
    intro address
    simpa only [no_room, font_fits, false_and, true_and, if_false] using bytes address
  · intro other
    refine ⟨?_, m.byte?_install_install program other, ?_⟩
    · rw [outcome_install, outcome_install, size_install]
    · intro font_fits address low high
      rw [byte?_install_install, if_neg (by omega), bytes, if_neg (by omega),
        if_pos ⟨font_fits, low, high⟩]

/-- A memory of a thousand bytes takes a program and then another.  One of two hundred
takes the font alone, and one of a hundred takes nothing. -/
theorem install_keeps_apart_thousand :
    ((zeros 1000).install [0x12, 0x00]).1 = .ok ()
      ∧ (((zeros 1000).install [0x12, 0x00]).2.install [0x6A]).2.byte? 0x201 = some 0x00
      ∧ (((zeros 1000).install [0x12, 0x00]).2.install [0x6A]).2.byte? 0x200 = some 0x6A
      ∧ (((zeros 1000).install [0x12, 0x00]).2.install [0x6A]).2.byte? 0x50 = some 0xF0
      ∧ ((zeros 200).install []).1 = .error (.outOfBounds 0x200 0 200)
      ∧ ((zeros 200).install []).2.byte? 0x9F = some 0x80
      ∧ (zeros 100).install [0x12] = (.error (.outOfBounds 0x50 80 100), zeros 100) := by
  obtain ⟨fits, bytes, _, _, _, others⟩ := install_keeps_apart (zeros 1000) [0x12, 0x00]
  obtain ⟨_, _, _, alone, _, _⟩ := install_keeps_apart (zeros 200) []
  obtain ⟨_, _, nothing, _, _, _⟩ := install_keeps_apart (zeros 100) [0x12]
  obtain ⟨_, ranges, font_stays⟩ := others [0x6A]
  simp only [size_zeros] at fits bytes alone nothing ranges font_stays
  obtain ⟨refused, font_only⟩ := alone (by decide) (by decide)
  refine ⟨fits.2 (by decide), ?_, ranges 0x200, font_stays (by decide) 0x50 (by decide) (by decide),
    refused, font_only 0x9F, nothing (by decide)⟩
  exact (ranges 0x201).trans (bytes (by decide) 0x201)

end Memory

end Chip8Console
