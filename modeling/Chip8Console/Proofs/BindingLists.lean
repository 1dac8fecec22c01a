import Chip8Console.Keypad.Basic
import Chip8Console.Proofs.Keymaps

/-!
# Which lists are keymaps

A list of entries is a keymap if it has sixteen of them and is one to one: every id
is in range, and neither an id nor a key occurs twice.  Any other list is refused,
for its length or for its first *flawed* entry.  Whether an entry is flawed depends
on the entries before it.

Reading a list keeps one thing: the bindings made so far are the entries read so far.
So an entry is refused exactly if it is flawed after those, and a list that is read to
its end is the list of the keymap.

* `OneToOne`: lists without a conflict.
* `Flaw`, `Flawless`: what is wrong with an entry after others.
* `Refused`: why a list is no keymap.
* `Bindings.addAll_eq_error_iff`: where reading stops.
* `Keymap.ofList_eq_ok_iff`, `Keymap.ofList_eq_error_iff`: what reading comes to.
* `Keypad.configure_accepts_bijections`: the main statement.
-/

namespace Chip8Console

/-! ## Conflicts in a list -/

/-- Every id is in range, and neither an id nor a key occurs twice. -/
structure OneToOne (entries : List KeyEntry) : Prop where
  inRange : ∀ entry ∈ entries, entry.2.toNat < 16
  ids_nodup : (entries.map Prod.snd).Nodup
  keys_nodup : (entries.map Prod.fst).Nodup

/-- What is wrong with an entry after others.  The range of its id is looked at first,
then whether the id is taken, then whether the key is. -/
inductive Flaw (before : List KeyEntry) (entry : KeyEntry) : KeymapError → Prop where
  | idOutOfRange (outside : 16 ≤ entry.2.toNat) : Flaw before entry (.idOutOfRange entry.2)
  | duplicateId (inRange : entry.2.toNat < 16) (taken : entry.2 ∈ before.map Prod.snd) :
      Flaw before entry (.duplicateId entry.2)
  | duplicateKey (inRange : entry.2.toNat < 16) (free : entry.2 ∉ before.map Prod.snd)
      (taken : entry.1 ∈ before.map Prod.fst) : Flaw before entry (.duplicateKey entry.1)

/-- No entry is flawed after those before it. -/
def Flawless (entries : List KeyEntry) : Prop :=
  ∀ before entry after error, entries = before ++ entry :: after → ¬ Flaw before entry error

/-- Why a list is no keymap. -/
inductive Refused (entries : List KeyEntry) : KeymapError → Prop where
  /-- There are not sixteen entries. -/
  | wrongCount (other : entries.length ≠ 16) : Refused entries (.wrongKeyCount entries.length)
  /-- An entry is flawed, and none before it is. -/
  | flawed {before after : List KeyEntry} {entry : KeyEntry} {error : KeymapError}
      (sixteen : entries.length = 16) (split : entries = before ++ entry :: after)
      (flawless : Flawless before) (flaw : Flaw before entry error) : Refused entries error

/-- A flaw is a conflict. -/
theorem Flaw.not_oneToOne {before after : List KeyEntry} {entry : KeyEntry} {error : KeymapError}
    (flaw : Flaw before entry error) : ¬ OneToOne (before ++ entry :: after) := by
  rintro ⟨inRange, ids, keys⟩
  rw [List.map_append, List.map_cons] at ids keys
  cases flaw with
  | idOutOfRange outside =>
    have := inRange entry (List.mem_append_right _ List.mem_cons_self)
    omega
  | duplicateId _ taken => exact (List.nodup_append.1 ids).2.2 _ taken _ List.mem_cons_self rfl
  | duplicateKey _ _ taken => exact (List.nodup_append.1 keys).2.2 _ taken _ List.mem_cons_self rfl

theorem OneToOne.flawless {entries : List KeyEntry} (h : OneToOne entries) : Flawless entries := by
  rintro before entry after error rfl flaw
  exact flaw.not_oneToOne h

/-- The order of the entries makes no conflict. -/
theorem OneToOne.perm {entries other : List KeyEntry} (h : OneToOne entries)
    (reordered : other.Perm entries) : OneToOne other where
  inRange := fun entry listed => h.inRange entry (reordered.mem_iff.1 listed)
  ids_nodup := (reordered.map Prod.snd).nodup_iff.2 h.ids_nodup
  keys_nodup := (reordered.map Prod.fst).nodup_iff.2 h.keys_nodup

/-! ## Reading entry by entry -/

namespace Bindings

/-- The entries that the bindings are read off. -/
def toEntries (b : Bindings) : List KeyEntry := b.entries.map entryOf

theorem keys_toEntries (b : Bindings) : b.toEntries.map Prod.fst = b.keys := by
  rw [toEntries, List.map_map, keys]
  rfl

theorem ids_toEntries (b : Bindings) :
    b.toEntries.map Prod.snd = b.ids.map fun id => UInt8.ofNat id.val := by
  rw [toEntries, List.map_map, ids, List.map_map]
  rfl

/-- An id in range is taken exactly if its number is listed. -/
theorem mem_ids_iff {b : Bindings} {byte : UInt8} (inRange : byte.toNat < 16) :
    (⟨byte.toNat, inRange⟩ : KeyId) ∈ b.ids ↔ byte ∈ b.toEntries.map Prod.snd := by
  have number : UInt8.ofNat byte.toNat = byte := UInt8.ofNat_toNat
  rw [ids_toEntries]
  constructor
  · intro taken
    exact List.mem_map.2 ⟨_, taken, number⟩
  · intro listed
    obtain ⟨id, taken, same⟩ := List.mem_map.1 listed
    have here : id = ⟨byte.toNat, inRange⟩ := number_injective (same.trans number.symm)
    rwa [← here]

/-- Bindings have no conflicts. -/
theorem oneToOne_toEntries (b : Bindings) : OneToOne b.toEntries where
  inRange := by
    intro entry listed
    obtain ⟨binding, _, rfl⟩ := List.mem_map.1 listed
    rw [entryOf, toNat_number]
    exact binding.2.isLt
  ids_nodup := by
    rw [ids_toEntries]
    exact b.ids_nodup.map number_injective
  keys_nodup := by
    rw [keys_toEntries]
    exact b.keys_nodup

/-- An entry that is accepted is listed behind those before it. -/
theorem toEntries_add {b more : Bindings} {entry : KeyEntry} (added : b.add entry = .ok more) :
    more.toEntries = b.toEntries ++ [entry] := by
  unfold add at added
  split at added
  · split at added
    · cases added
    · split at added
      · cases added
      · cases added
        rw [toEntries, insert, List.map_append, ← toEntries, List.map_singleton, entryOf,
          UInt8.ofNat_toNat]
  · cases added

/-- An entry is refused exactly if it is flawed after those before it. -/
theorem add_eq_error_iff {b : Bindings} {entry : KeyEntry} {error : KeymapError} :
    b.add entry = .error error ↔ Flaw b.toEntries entry error := by
  unfold add
  by_cases inRange : entry.2.toNat < 16
  · rw [dif_pos inRange]
    constructor
    · intro refused
      split at refused
      · next taken =>
        cases refused
        exact .duplicateId inRange ((mem_ids_iff inRange).1 taken)
      · next free =>
        split at refused
        · next taken =>
          cases refused
          refine .duplicateKey inRange (fun listed => free ((mem_ids_iff inRange).2 listed)) ?_
          rwa [keys_toEntries]
        · cases refused
    · intro flaw
      cases flaw with
      | idOutOfRange outside => exact absurd inRange (Nat.not_lt_of_le outside)
      | duplicateId _ taken => rw [dif_pos ((mem_ids_iff inRange).2 taken)]
      | duplicateKey _ free taken =>
        rw [keys_toEntries] at taken
        rw [dif_neg fun used => free ((mem_ids_iff inRange).1 used), dif_pos taken]
  · rw [dif_neg inRange]
    constructor
    · intro refused
      cases refused
      exact .idOutOfRange (Nat.le_of_not_lt inRange)
    · intro flaw
      cases flaw with
      | idOutOfRange _ => rfl
      | duplicateId inside _ => exact absurd inside inRange
      | duplicateKey inside _ _ => exact absurd inside inRange

/-- Entries are read in turn. -/
theorem addAll_append {b more : Bindings} {earlier : List KeyEntry}
    (read : b.addAll earlier = .ok more) (later : List KeyEntry) :
    b.addAll (earlier ++ later) = more.addAll later := by
  induction earlier generalizing b with
  | nil =>
    cases read
    rfl
  | cons entry rest ih =>
    rw [addAll] at read
    rw [List.cons_append, addAll]
    split at read
    · exact ih read
    · cases read

/-- The bindings made are the entries read. -/
theorem toEntries_addAll {b more : Bindings} {entries : List KeyEntry}
    (read : b.addAll entries = .ok more) : more.toEntries = b.toEntries ++ entries := by
  induction entries generalizing b with
  | nil =>
    cases read
    rw [List.append_nil]
  | cons entry rest ih =>
    rw [addAll] at read
    split at read
    · next next added => rw [ih read, toEntries_add added, List.append_assoc, List.singleton_append]
    · cases read

/-- Reading stops at the first entry that is refused. -/
theorem addAll_eq_error_iff {b : Bindings} {entries : List KeyEntry} {error : KeymapError} :
    b.addAll entries = .error error
      ↔ ∃ before entry after more, entries = before ++ entry :: after
        ∧ b.addAll before = .ok more ∧ Flaw more.toEntries entry error := by
  constructor
  · intro failed
    induction entries generalizing b with
    | nil => cases failed
    | cons entry rest ih =>
      rw [addAll] at failed
      split at failed
      · next next added =>
        obtain ⟨before, bad, after, more, rfl, read, flaw⟩ := ih failed
        refine ⟨entry :: before, bad, after, more, rfl, ?_, flaw⟩
        rw [addAll, added]
        exact read
      · next refused =>
        cases failed
        exact ⟨[], entry, rest, b, rfl, rfl, add_eq_error_iff.1 refused⟩
  · rintro ⟨before, entry, after, more, rfl, read, flaw⟩
    rw [addAll_append read, addAll, add_eq_error_iff.2 flaw]

/-- A list that is read to its end is the list of the bindings, so it has no conflicts. -/
theorem oneToOne_of_addAll {entries : List KeyEntry} {more : Bindings}
    (read : addAll {} entries = .ok more) : more.toEntries = entries ∧ OneToOne entries := by
  have same : more.toEntries = entries := toEntries_addAll read
  refine ⟨same, ?_⟩
  rw [← same]
  exact more.oneToOne_toEntries

/-- A list without a flaw is read to its end. -/
theorem addAll_of_flawless {entries : List KeyEntry} (flawless : Flawless entries) :
    ∃ more, addAll {} entries = .ok more := by
  cases read : addAll {} entries with
  | ok more => exact ⟨more, rfl⟩
  | error error =>
    -- reading would have stopped at an entry flawed after all those before it
    obtain ⟨before, entry, after, more, split, start, flaw⟩ := addAll_eq_error_iff.1 read
    rw [(oneToOne_of_addAll start).1] at flaw
    exact absurd flaw (flawless before entry after error split)

end Bindings

/-! ## Reading a list -/

namespace Keymap

variable {entries : List KeyEntry}

/-- A list is read as a keymap exactly if it is the list of that keymap. -/
theorem ofList_eq_ok_iff {m : Keymap} : ofList entries = .ok m ↔ entries = m.toList := by
  constructor
  · intro read
    unfold ofList at read
    split at read
    · split at read
      · next bindings made =>
        cases read
        exact (Bindings.oneToOne_of_addAll made).1.symm
      · cases read
    · cases read
  · rintro rfl
    exact ofList_toList m

/-- Sixteen entries are refused with the error at which reading stops. -/
theorem ofList_eq_error_of_length {error : KeymapError} (sixteen : entries.length = 16) :
    ofList entries = .error error ↔ Bindings.addAll {} entries = .error error := by
  rw [ofList, dif_pos sixteen]
  split
  · next bindings made => simp [made]
  · next reason made => simp [made]

theorem ofList_eq_error_iff {error : KeymapError} :
    ofList entries = .error error ↔ Refused entries error := by
  by_cases sixteen : entries.length = 16
  · rw [ofList_eq_error_of_length sixteen, Bindings.addAll_eq_error_iff]
    constructor
    · rintro ⟨before, entry, after, more, split, read, flaw⟩
      obtain ⟨same, oneToOne⟩ := Bindings.oneToOne_of_addAll read
      rw [same] at flaw
      exact .flawed sixteen split oneToOne.flawless flaw
    · intro refused
      cases refused with
      | wrongCount other => exact absurd sixteen other
      | @flawed before after entry error _ split flawless flaw =>
        obtain ⟨more, read⟩ := Bindings.addAll_of_flawless flawless
        refine ⟨before, entry, after, more, split, read, ?_⟩
        rw [(Bindings.oneToOne_of_addAll read).1]
        exact flaw
  · rw [ofList, dif_neg sixteen]
    constructor
    · intro failed
      cases failed
      exact .wrongCount sixteen
    · intro refused
      cases refused with
      | wrongCount _ => rfl
      | flawed same _ _ _ => exact absurd same sixteen

/-- Sixteen entries without a conflict are a keymap, and nothing else is. -/
theorem ofList_isOk_iff :
    (∃ m, ofList entries = .ok m) ↔ entries.length = 16 ∧ OneToOne entries := by
  constructor
  · rintro ⟨m, read⟩
    rw [ofList_eq_ok_iff.1 read]
    exact ⟨by rw [toList, List.length_map, m.length_entries], m.oneToOne_toEntries⟩
  · rintro ⟨sixteen, oneToOne⟩
    cases read : ofList entries with
    | ok m => exact ⟨m, rfl⟩
    | error error =>
      cases ofList_eq_error_iff.1 read with
      | wrongCount other => exact absurd sixteen other
      | flawed _ split _ flaw =>
        rw [split] at oneToOne
        exact absurd oneToOne flaw.not_oneToOne

/-- A key stands for a number exactly if the list has the two together. -/
theorem number_eq_some_iff {m : Keymap} (read : ofList entries = .ok m) {key : Char}
    {byte : UInt8} :
    (m.id? key).map (fun id => UInt8.ofNat id.val) = some byte ↔ (key, byte) ∈ entries := by
  rw [ofList_eq_ok_iff.1 read, toList, List.mem_map, Option.map_eq_some_iff]
  constructor
  · rintro ⟨id, bound, rfl⟩
    exact ⟨(key, id), id?_eq_some_iff_mem.1 bound, rfl⟩
  · rintro ⟨⟨other, id⟩, bound, same⟩
    cases same
    exact ⟨id, id?_eq_some_iff_mem.2 bound, rfl⟩

/-- The order of the list is of no account. -/
theorem id?_eq_of_perm {m again : Keymap} {other : List KeyEntry} (read : ofList entries = .ok m)
    (readAgain : ofList other = .ok again) (reordered : other.Perm entries) (key : Char) :
    again.id? key = m.id? key := by
  apply Option.map_injective number_injective
  apply Option.ext
  intro byte
  rw [number_eq_some_iff readAgain, number_eq_some_iff read, reordered.mem_iff]

end Keymap

/-! ## Replacing the keymap -/

namespace Keypad

/-- A list that is a keymap is taken over, with nothing held and nothing latched. -/
theorem configure_of_ok {p : Keypad} {entries : List KeyEntry} {m : Keymap}
    (read : Keymap.ofList entries = .ok m) : p.configure entries = (.ok (), { keymap := m }) := by
  simp only [configure, ofList, read]

theorem configure_of_error {p : Keypad} {entries : List KeyEntry} {error : KeymapError}
    (failed : Keymap.ofList entries = .error error) :
    p.configure entries = (.error error, p) := by
  simp only [configure, ofList, failed]

/-- **A keypad takes exactly the bijections.**  A list is taken over exactly if it has
sixteen entries and is one to one.  It is refused for its length, and else for its first
flawed entry, and then the keypad stays as it was.  After a list has been taken over
there is one key for every id, a key stands for a number exactly if the list has the
two together, and nothing is held or latched.  The list in any other order is taken over
by any keypad, and no key stands for something else. -/
theorem configure_accepts_bijections (p : Keypad) (entries : List KeyEntry) :
    ((p.configure entries).1 = .ok () ↔ entries.length = 16 ∧ OneToOne entries)
      ∧ (∀ error, (p.configure entries).1 = .error error ↔ Refused entries error)
      ∧ (∀ error, (p.configure entries).1 = .error error → (p.configure entries).2 = p)
      ∧ ∀ fresh, p.configure entries = (.ok (), fresh) →
        (∀ id : KeyId, ∃! key, fresh.keymap.id? key = some id)
        ∧ (∀ key byte, (fresh.keymap.id? key).map (fun id => UInt8.ofNat id.val) = some byte
          ↔ (key, byte) ∈ entries)
        ∧ fresh.held = Vector.replicate 16 false ∧ fresh.latched = none
        ∧ ∀ (q : Keypad) (other : List KeyEntry), other.Perm entries →
          ∃ again, q.configure other = (.ok (), again)
            ∧ ∀ key, again.keymap.id? key = fresh.keymap.id? key := by
  cases read : Keymap.ofList entries with
  | error error =>
    rw [configure_of_error read]
    refine ⟨?_, ?_, fun _ _ => rfl, fun _ taken => by cases taken⟩
    · rw [← Keymap.ofList_isOk_iff, read]
      exact iff_of_false nofun nofun
    · intro other
      rw [← Keymap.ofList_eq_error_iff, read, Except.error.injEq, Except.error.injEq]
  | ok m =>
    rw [configure_of_ok read]
    refine ⟨?_, ?_, nofun, ?_⟩
    · rw [← Keymap.ofList_isOk_iff, read]
      exact iff_of_true rfl ⟨m, rfl⟩
    · intro error
      rw [← Keymap.ofList_eq_error_iff, read]
      exact iff_of_false nofun nofun
    · intro fresh taken
      cases taken
      refine ⟨?_, ?_, rfl, rfl, ?_⟩
      · intro id
        exact ⟨m.keyOf id, m.id?_keyOf id, fun key bound => Keymap.id?_eq_some_iff.1 bound⟩
      · exact fun key byte => Keymap.number_eq_some_iff read
      · intro q other reordered
        obtain ⟨sixteen, oneToOne⟩ := Keymap.ofList_isOk_iff.1 ⟨m, read⟩
        obtain ⟨again, readAgain⟩ := Keymap.ofList_isOk_iff.2
          ⟨reordered.length_eq.trans sixteen, oneToOne.perm reordered⟩
        exact ⟨{ keymap := again }, configure_of_ok readAgain,
          Keymap.id?_eq_of_perm read readAgain reordered⟩

/-- The usual list with two bad entries.  The third repeats the key and the id of the
first.  The sixth has an id out of range. -/
def crossedList : List KeyEntry :=
  (Keymap.conventional.toList.set 2 ('x', 0x0)).set 5 ('w', 0x10)

/-- A keypad with a key held. -/
def occupied : Keypad := (({ keymap := Keymap.conventional } : Keypad).press 'q').2

/-- A keypad with a key held takes over the usual list, and its reverse to the same
effect.  Of two bad entries the earlier is reported, and of what is wrong with that one
the id.  Then the key stays held. -/
theorem configure_accepts_bijections_crossed :
    occupied.configure Keymap.conventional.toList = (.ok (), { keymap := Keymap.conventional })
      ∧ (∃! key, Keymap.conventional.id? key = some 4)
      ∧ (∃ again, occupied.configure Keymap.conventional.toList.reverse = (.ok (), again)
        ∧ again.keymap.id? 'q' = some 4)
      ∧ occupied.configure crossedList = (.error (.duplicateId 0), occupied) := by
  have taken : occupied.configure Keymap.conventional.toList
      = (.ok (), { keymap := Keymap.conventional }) := configure_of_ok (Keymap.ofList_toList _)
  obtain ⟨_, _, _, accepted⟩ := configure_accepts_bijections occupied Keymap.conventional.toList
  obtain ⟨one, _, _, _, reordered⟩ := accepted _ taken
  obtain ⟨again, reversed, same⟩ := reordered occupied _ (List.reverse_perm _)
  obtain ⟨_, refused, unchanged, _⟩ := configure_accepts_bijections occupied crossedList
  have flawless : Flawless [('x', 0x0), ('1', 0x1)] :=
    OneToOne.flawless ⟨by decide, by decide, by decide⟩
  have crossed := (refused (.duplicateId 0)).2
    (.flawed (by decide) rfl flawless (.duplicateId (by decide) (by decide)))
  exact ⟨taken, one 4, ⟨again, reversed, (same 'q').trans (by decide)⟩,
    Prod.ext crossed (unchanged _ crossed)⟩

end Keypad

end Chip8Console
